import Tproxy.Udp.Flows

namespace Tproxy

/-- The datagram that a packet from the server becomes, with the source that it is
to have; `none` drops it. -/
def udpReplyMsg (s : UdpSession) (packet : UdpReplyPacket) : Option (UdpEndpointKey × UdpClientMsg) :=
  packet.opened.bind fun opened =>
    (udpReplySource s opened.1).map fun source => (source, ⟨opened.2, s.clientEndpoint⟩)

/-- The system gives the packet a bound socket and has memory for its entry. -/
structure UdpReplyPacket.Served (packet : UdpReplyPacket) : Prop where
  socket : ∀ fds, packet.socket fds ≠ none
  bound : packet.bound = true
  memory : ∀ p, p.freeList = 0 → p.poolBlocks < p.maxBlocks → (packet.memalign p).1 ≠ none

/-- The queued datagrams are `msgs`, and each refers to an entry of its source. -/
def UdpQueue (w : UdpWorld) : List UdpTproxySend → List (UdpEndpointKey × UdpClientMsg) → Prop :=
  List.Forall₂ fun send msg => send.msg = msg.2 ∧
    ∃ entry, w.tproxy.record send.sourceEntry = some entry ∧ entry.key = msg.1

/-- A batch of packets for the session `s` leads from `w` to `final`: what it sends are
datagrams of the packets, each from the entry of its source, and all of them if the
system serves every packet. -/
def UdpDelivers (s : UdpSession) (packets : List UdpReplyPacket) (w last final : UdpWorld) : Prop :=
  ∃ (calls : List (UdpTproxyEntry × List UdpClientMsg)) (msgs : List (UdpEndpointKey × UdpClientMsg)),
    final.trace.filter UdpEffect.isSend = w.trace.filter UdpEffect.isSend ++
        calls.map (fun call => .sendmmsg call.1.udpSockfd call.2) ∧
      (∀ call ∈ calls, ∃ n, last.tproxy.record n = some call.1) ∧
      (calls.flatMap fun call => call.2.map fun msg => (call.1.key, msg)).Perm msgs ∧
      msgs.Sublist (packets.filterMap (udpReplyMsg s)) ∧
      ((∀ packet ∈ packets, packet.Served) → msgs = packets.filterMap (udpReplyMsg s))

variable {cfg : UdpConfig} {new : UdpFlow → Prop} {w w' : UdpWorld} {s : UdpSession}
  {packet : UdpReplyPacket} {packets : List UdpReplyPacket} {now : EvTstamp} {batch : UdpReplyBatch}
  {deferred deferred' : List Nat} {replySrc : UdpEndpointKey} {n a : Nat}

section Entries

/-- The entry that is found or created is one of the wanted source. -/
theorem udpTproxyEntryGetOrCreate_key
    (run : udpTproxyEntryGetOrCreate cfg packet w deferred replySrc now = (w', deferred', some n)) :
    ∃ entry, w'.tproxy.record n = some entry ∧ entry.key = replySrc := by
  unfold udpTproxyEntryGetOrCreate at run
  split at run
  · rename_i m hit
    have found := List.find?_some hit
    obtain ⟨entry, atM, same⟩ := (Option.any_eq_true _ _).mp found
    simp only [atM] at run
    cases run
    exact ⟨_, Function.update_self .., of_decide_eq_true same⟩
  · split at run
    · cases run
    · split at run
      · unfold udpTproxyEntryCreate at run
        dsimp only at run
        split at run
        · cases run
        · rename_i got
          cases run
          exact ⟨_, PoolArena.alloc_at got, rfl⟩
      · cases run

/-- An entry for a packet is refused only if the system does not serve it. -/
theorem UdpInv.entry_refused (inv : UdpInv cfg w ⟨none, none, deferred⟩)
    (room : deferred.length < udpBatchSize)
    (run : udpTproxyEntryGetOrCreate cfg packet w deferred replySrc now = (w', deferred', none)) :
    ¬ packet.Served := by
  intro served
  unfold udpTproxyEntryGetOrCreate at run
  split at run
  · split at run <;> cases run
  · split at run
    · rename_i refused
      exact served.socket _ refused
    · rename_i fd _
      rw [if_pos served.bound] at run
      unfold udpTproxyEntryCreate at run
      rcases alloced : (w.emit [.opened fd]).tproxy.toPoolArena.alloc packet.memalign cfg.tproxySize
        ⟨replySrc, fd, now⟩ with ⟨after, call⟩
      simp only [alloced] at run
      split at run
      · rename_i failed
        obtain ⟨_, _, full⟩ := inv.tproxy.holds.alloc_none alloced failed
        have available : call.MemoryAvailable := by
          unfold PoolArena.alloc at alloced
          split at alloced
          · cases alloced
            exact fun p present => by cases present
          · rename_i p _
            split at alloced <;> cases alloced <;> rintro q ⟨⟩ <;> exact served.memory p
        have all := full available
        have size := inv.tproxy.size
        simp only [UdpConfig.maxBlocks] at all
        omega
      · cases run

/-- An entry stays one of its source. -/
theorem UdpQueue.kept {sends : List UdpTproxySend} {msgs : List (UdpEndpointKey × UdpClientMsg)}
    (queue : UdpQueue w sends msgs) (kept : EntriesKept w w') : UdpQueue w' sends msgs := by
  obtain ⟨_, _, keeps⟩ := kept
  refine queue.imp fun send msg found => ?_
  obtain ⟨own, entry, atN, keyed⟩ := found
  obtain ⟨_, _, y, atN', sameKey, _⟩ := keeps _ entry atN
  exact ⟨own, y, atN', sameKey.trans keyed⟩

/-- One packet adds its datagram to the queue, or is dropped. -/
theorem UdpInv.reply_step_queue (inv : UdpInv cfg batch.world ⟨none, none, batch.deferred⟩)
    (room : batch.deferred.length < udpBatchSize) (s : UdpSession) (now : EvTstamp)
    (packet : UdpReplyPacket) {msgs : List (UdpEndpointKey × UdpClientMsg)}
    (queue : UdpQueue batch.world batch.sends msgs) :
    (∃ msg, udpReplyMsg s packet = some msg ∧
        UdpQueue (udpReplyStep cfg s now batch packet).world
          (udpReplyStep cfg s now batch packet).sends (msgs ++ [msg])) ∨
      (packet.Served → udpReplyMsg s packet = none) ∧
        UdpQueue (udpReplyStep cfg s now batch packet).world
          (udpReplyStep cfg s now batch packet).sends msgs := by
  obtain ⟨kept, _⟩ := inv.reply_step_kept s now packet
  unfold udpReplyStep at kept ⊢
  unfold udpReplyMsg
  cases opens : packet.opened with
  | none => exact Or.inr ⟨fun _ => rfl, queue⟩
  | some opened =>
    obtain ⟨addr, plain⟩ := opened
    simp only [opens] at kept ⊢
    cases source : udpReplySource s addr with
    | none => exact Or.inr ⟨fun _ => by simp only [Option.bind_some, source, Option.map_none], queue⟩
    | some replySrc =>
      simp only [source] at kept ⊢
      split at kept <;> rename_i run
      · refine Or.inr ⟨fun served => absurd served (inv.entry_refused room run), ?_⟩
        exact queue.kept kept
      · obtain ⟨entry, atN, keyed⟩ := udpTproxyEntryGetOrCreate_key run
        refine Or.inl ⟨(replySrc, ⟨plain, s.clientEndpoint⟩), ?_, ?_⟩
        · simp only [Option.bind_some, source, Option.map_some]
        · exact List.rel_append (queue.kept kept) (.cons ⟨rfl, entry, atN, keyed⟩ .nil)

/-- The queue after `k` packets of a batch. -/
theorem UdpInv.reply_queue (inv : UdpInv cfg w .idle) (a : Nat) (s : UdpSession) (now : EvTstamp)
    (small : packets.length ≤ udpBatchSize) {k : Nat} (within : k ≤ packets.length) :
    ∃ msgs, UdpQueue (udpReplyBatch cfg w a s packets now k).world
        (udpReplyBatch cfg w a s packets now k).sends msgs ∧
      msgs.Sublist ((packets.take k).filterMap (udpReplyMsg s)) ∧
      ((∀ packet ∈ packets.take k, packet.Served) →
        msgs = (packets.take k).filterMap (udpReplyMsg s)) := by
  induction k with
  | zero => exact ⟨[], .nil, List.nil_sublist _, fun _ => by rw [List.take_zero, List.filterMap_nil]⟩
  | succ k ih =>
    obtain ⟨msgs, queue, sublist, all⟩ := ih (by omega)
    obtain ⟨before, deferred⟩ := inv.reply_batch a s now small (k := k) (by omega)
    rw [udpReplyBatch_succ w a s now within, List.take_succ_eq_append_getElem within,
      List.filterMap_append]
    rcases before.reply_step_queue (by omega) s now packets[k] queue with
      ⟨msg, becomes, added⟩ | ⟨dropped, same⟩
    · have last : [packets[k]].filterMap (udpReplyMsg s) = [msg] := by
        rw [List.filterMap_cons_some becomes, List.filterMap_nil]
      rw [last]
      refine ⟨_, added, sublist.append (List.Sublist.refl _), fun served => ?_⟩
      rw [all fun packet member => served packet (List.mem_append_left _ member)]
    · refine ⟨msgs, same, sublist.trans (List.sublist_append_left _ _), fun served => ?_⟩
      have none := dropped (served _ (List.mem_append_right _ List.mem_cons_self))
      rw [List.filterMap_cons_none none, List.filterMap_nil, List.append_nil]
      exact all fun packet member => served packet (List.mem_append_left _ member)

end Entries

section Carries

theorem udpTproxyEntryFree_carries (cfg : UdpConfig) (w : UdpWorld) (n : Nat) :
    UdpCarries new w (udpTproxyEntryFree cfg w n) := by
  unfold udpTproxyEntryFree
  split
  · exact .refl
  · exact .of_effects _ rfl rfl rfl

theorem udpTproxyEntryClose_carries (cfg : UdpConfig) (w : UdpWorld) (n : Nat) :
    UdpCarries new w (udpTproxyEntryClose cfg w n) := by
  have removed : UdpCarries new w { w with tproxy := w.tproxy.del n } :=
    .of_effects [] (List.append_nil _).symm rfl rfl
  exact removed.trans (udpTproxyEntryFree_carries cfg _ n)

theorem udpTproxyEntryCreate_carries (w : UdpWorld) (deferred : List Nat) (fd : Nat) (now : EvTstamp) :
    UdpCarries new w (udpTproxyEntryCreate cfg packet w deferred replySrc fd now).1 := by
  unfold udpTproxyEntryCreate
  dsimp only
  split
  · exact .of_effects [.alloc .tproxy _, .closed fd] (List.append_assoc ..) rfl rfl
  · exact .of_effects [.alloc .tproxy _] rfl rfl rfl

theorem udpTproxyEntryGetOrCreate_carries (cfg : UdpConfig) (packet : UdpReplyPacket) (w : UdpWorld)
    (deferred : List Nat) (replySrc : UdpEndpointKey) (now : EvTstamp) :
    UdpCarries new w (udpTproxyEntryGetOrCreate cfg packet w deferred replySrc now).1 := by
  unfold udpTproxyEntryGetOrCreate
  split
  · split
    · exact .refl
    · exact .of_effects [] (List.append_nil _).symm rfl rfl
  · split
    · exact .refl
    · rename_i fd _
      split
      · have opened : UdpCarries new w (w.emit [.opened fd]) :=
          .of_effects _ rfl rfl rfl
        exact opened.trans (udpTproxyEntryCreate_carries _ deferred fd now)
      · exact .of_effects [.opened fd, .closed fd] rfl rfl rfl

theorem udpReplyStep_carries (cfg : UdpConfig) (s : UdpSession) (now : EvTstamp)
    (batch : UdpReplyBatch) (packet : UdpReplyPacket) :
    UdpCarries new batch.world (udpReplyStep cfg s now batch packet).world := by
  unfold udpReplyStep
  split
  · exact .refl
  · split
    · exact .refl
    · rename_i replySrc _
      have carries : UdpCarries new batch.world _ :=
        udpTproxyEntryGetOrCreate_carries cfg packet batch.world batch.deferred replySrc now
      split <;> rename_i run <;> rw [run] at carries <;> exact carries

theorem udpReplySteps_carries (cfg : UdpConfig) (s : UdpSession) (now : EvTstamp)
    (packets : List UdpReplyPacket) (batch : UdpReplyBatch) :
    UdpCarries new batch.world (packets.foldl (udpReplyStep cfg s now) batch).world := by
  induction packets generalizing batch with
  | nil => exact .refl
  | cons packet packets ih => exact (udpReplyStep_carries cfg s now batch packet).trans (ih _)

/-- Until its flush a batch of replies sends nothing. -/
theorem udpReplyBatch_carries (cfg : UdpConfig) (w : UdpWorld) (a : Nat) (s : UdpSession)
    (packets : List UdpReplyPacket) (now : EvTstamp) (k : Nat) :
    UdpCarries new w (udpReplyBatch cfg w a s packets now k).world :=
  (udpSessionTouch_carries w a now).trans
    (udpReplySteps_carries cfg s now (packets.take k) ⟨udpSessionTouch w a now, [], []⟩)

end Carries

section Flush

/-- The calls of a flush take every datagram of the queue from its entry. -/
theorem udpFlushCalls_perm (sends : List UdpTproxySend) :
    ((udpFlushCalls sends).flatMap fun call => call.2.map fun msg => (call.1, msg)).Perm
        (sends.map fun send => (send.sourceEntry, send.msg)) ∧
      ∀ call ∈ udpFlushCalls sends, ∃ send ∈ sends, send.sourceEntry = call.1 := by
  have fits : sends.length ≤ (sends.map UdpTproxySend.msg).length := (List.length_map _).ge
  obtain ⟨fin, served, _, done, total⟩ := udpFlushRun_served fits
  have queue := done.queue
  rw [List.append_nil] at queue
  rw [total, done.calls]
  constructor
  · have taken : (served.map fun group => (group.1, group.2.map fun x => x.1.msg)).flatMap
        (fun call => call.2.map fun msg => (call.1, msg)) =
        (served.flatMap Prod.snd).map fun x => (x.1.sourceEntry, x.1.msg) := by
      rw [List.flatMap_map, List.map_flatMap]
      refine List.flatMap_congr fun group listed => ?_
      rw [List.map_map]
      refine List.map_congr_left fun x inGroup => ?_
      rw [← (done.keyed group listed).2 x inGroup]
      rfl
    have line : sends.zipIdx.map (fun x => (x.1.sourceEntry, x.1.msg)) =
        sends.map fun send => (send.sourceEntry, send.msg) := by
      rw [← List.zipIdx_map_fst 0 sends, List.map_map, List.zipIdx_map_fst]
      rfl
    rw [taken, ← line]
    exact queue.map _
  · intro call member
    obtain ⟨group, listed, rfl⟩ := List.mem_map.mp member
    obtain ⟨nonempty, own⟩ := done.keyed group listed
    obtain ⟨x, inGroup⟩ := List.exists_mem_of_ne_nil _ nonempty
    have waits := queue.subset (List.mem_flatMap.mpr ⟨group, listed, inGroup⟩)
    exact ⟨x.1, List.fst_mem_of_mem_zipIdx waits, own x inGroup⟩

theorem UdpQueue.map_eq {sends : List UdpTproxySend} {msgs : List (UdpEndpointKey × UdpClientMsg)}
    (queue : UdpQueue w sends msgs) (entry : Nat → UdpTproxyEntry)
    (found : ∀ m x, w.tproxy.record m = some x → entry m = x) :
    sends.map (fun send => ((entry send.sourceEntry).key, send.msg)) = msgs := by
  induction queue with
  | nil => rfl
  | cons first rest ih =>
    obtain ⟨own, x, atN, keyed⟩ := first
    rw [List.map_cons, ih, found _ x atN, keyed, own]

theorem UdpInv.reply_delivers (inv : UdpInv cfg w .idle) (atA : w.sessions.record a = some s)
    (received : packets ≠ []) (small : packets.length ≤ udpBatchSize) (now : EvTstamp) :
    UdpDelivers s packets w (udpReplyBatch cfg w a s packets now packets.length).world
      (udpRelayOnServerReply cfg w a packets now) := by
  have live := inv.reply_queued a s now small (Nat.le_refl packets.length)
  obtain ⟨msgs, queue, sublist, all⟩ := inv.reply_queue a s now small (Nat.le_refl packets.length)
  rw [List.take_length] at sublist all
  rw [udpRelayOnServerReply_eq now atA received small]
  have quiet : UdpCarries (fun _ => False) w _ :=
    udpReplyBatch_carries cfg w a s packets now packets.length
  generalize udpReplyBatch cfg w a s packets now packets.length = batch at *
  -- the entry that a number stands for when the loop is over
  let entry := fun m => (batch.world.tproxy.record m).getD ⟨⟨0, 0, []⟩, 0, 0⟩
  have found : ∀ m x, batch.world.tproxy.record m = some x → entry m = x := fun m x atM => by
    simp only [entry, atM, Option.getD_some]
  obtain ⟨perm, served⟩ := udpFlushCalls_perm batch.sends
  have flushed := udpTproxyFlushClientSends_eq (fun m => (entry m).udpSockfd) fun send queued => by
    obtain ⟨x, atX⟩ := Option.isSome_iff_exists.mp (live send queued)
    exact ⟨x, atX, by rw [found _ x atX]⟩
  refine ⟨(udpFlushCalls batch.sends).map fun call => (entry call.1, call.2), msgs, ?_, ?_, ?_,
    sublist, all⟩
  · have freed : UdpCarries (fun _ => False) _ _ := UdpCarries.foldl (udpTproxyEntryFree_carries cfg)
      batch.deferred (udpTproxyFlushClientSends batch.world batch.sends)
    rw [freed.sends, flushed, UdpWorld.emit, List.filter_append, quiet.sends, List.map_map]
    refine congrArg _ (List.filter_eq_self.mpr fun effect member => ?_)
    obtain ⟨call, _, rfl⟩ := List.mem_map.mp member
    rfl
  · intro call member
    obtain ⟨base, listed, rfl⟩ := List.mem_map.mp member
    obtain ⟨send, queued, same⟩ := served base listed
    obtain ⟨x, atX⟩ := Option.isSome_iff_exists.mp (live send queued)
    rw [same] at atX
    exact ⟨base.1, by rw [atX, found _ x atX]⟩
  · rw [List.flatMap_map, ← queue.map_eq entry found]
    have keyed := perm.map fun pair : Nat × UdpClientMsg => ((entry pair.1).key, pair.2)
    rw [List.map_flatMap, List.map_map] at keyed
    simp only [List.map_map] at keyed
    exact keyed

/-- In every run a batch of replies sends exactly what its packets become: to the client
of the session, and from the source that they must have. -/
theorem udpReply_delivers (reach : UdpReach cfg w) (atA : w.sessions.record a = some s)
    (received : packets ≠ []) (small : packets.length ≤ udpBatchSize) (now : EvTstamp) :
    UdpDelivers s packets w (udpReplyBatch cfg w a s packets now packets.length).world
      (udpRelayOnServerReply cfg w a packets now) :=
  reach.inv.reply_delivers atA received small now

/-- Three replies from two sources, and one whose address is a name. -/
theorem udpReply_delivers_two_sources : ∃ w s packets,
    UdpReach udpTinyConfig w ∧ w.sessions.record udpTinySession = some s ∧ packets.length = 4 ∧
      UdpDelivers s packets w
        (udpReplyBatch udpTinyConfig w udpTinySession s packets 6 packets.length).world
        (udpRelayOnServerReply udpTinyConfig w udpTinySession packets 6) := by
  obtain ⟨s, atA⟩ := Option.isSome_iff_exists.mp
    (by decide +kernel : ((udpRun udpTinyConfig udpTinyStart
      [.recvmsg [udpTinyPacket 1 none, udpTinyPacket 2 none] 5]).sessions.record udpTinySession).isSome)
  exact ⟨_, s, [.ipv4 53 [10, 0, 0, 9], .domain 53 [120], .ipv4 54 [10, 0, 0, 9], .ipv4 53 [10, 0, 0, 9]].map
      fun source => ⟨some (source, [1]), udpTinySocket, true,
        fun _ => ⟨none, fun _ refused => by cases refused⟩⟩,
    udpTinyStart_reach _, atA, rfl,
    udpReply_delivers (udpTinyStart_reach _) atA (List.cons_ne_nil _ _) (by decide) 6⟩

end Flush

end Tproxy
