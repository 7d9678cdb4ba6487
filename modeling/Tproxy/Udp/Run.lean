import Tproxy.Udp.Preserve

namespace Tproxy

variable {cfg : UdpConfig} {w w' : UdpWorld} {deferred : List Nat}

/-- One packet of a batch defers at most one entry. -/
theorem UdpInv.reply_step {batch : UdpReplyBatch} (s : UdpSession) (now : EvTstamp)
    (packet : UdpReplyPacket) (inv : UdpInv cfg batch.world ⟨none, none, batch.deferred⟩)
    (room : batch.deferred.length < udpBatchSize) :
    UdpInv cfg (udpReplyStep cfg s now batch packet).world
        ⟨none, none, (udpReplyStep cfg s now batch packet).deferred⟩ ∧
      (udpReplyStep cfg s now batch packet).deferred.length ≤ batch.deferred.length + 1 := by
  unfold udpReplyStep
  split
  · exact ⟨inv, Nat.le_succ _⟩
  · split
    · exact ⟨inv, Nat.le_succ _⟩
    · split <;> rename_i run <;> exact inv.tproxy_get_or_create room run

/-- The loop over a batch of replies. The spare blocks of the tproxy pool last
for the whole batch. -/
theorem UdpInv.reply_steps (s : UdpSession) (now : EvTstamp) (packets : List UdpReplyPacket)
    (batch : UdpReplyBatch) (inv : UdpInv cfg batch.world ⟨none, none, batch.deferred⟩)
    (room : batch.deferred.length + packets.length ≤ udpBatchSize) :
    UdpInv cfg (packets.foldl (udpReplyStep cfg s now) batch).world
        ⟨none, none, (packets.foldl (udpReplyStep cfg s now) batch).deferred⟩ ∧
      (packets.foldl (udpReplyStep cfg s now) batch).deferred.length ≤
        batch.deferred.length + packets.length := by
  induction packets generalizing batch with
  | nil => exact ⟨inv, Nat.le_refl _⟩
  | cons packet packets ih =>
    rw [List.length_cons] at room
    obtain ⟨after, longer⟩ := UdpInv.reply_step s now packet inv (by omega)
    obtain ⟨last, bound⟩ := ih _ after (by omega)
    rw [List.foldl_cons, List.length_cons]
    exact ⟨last, by omega⟩

/-- Datagrams may be sent through the sockets of live owners. -/
theorem UdpInv.emit_sends (effects : List UdpEffect) (inv : UdpInv cfg w ⟨none, none, deferred⟩)
    (sends : ∀ effect ∈ effects, ∃ n entry msgs, w.tproxy.record n = some entry ∧
      effect = .sendmmsg entry.udpSockfd msgs) :
    UdpInv cfg (w.emit effects) ⟨none, none, deferred⟩ := by
  induction effects generalizing w with
  | nil =>
    unfold UdpWorld.emit
    rw [List.append_nil]
    exact inv
  | cons effect effects ih =>
    obtain ⟨n, entry, msgs, atN, rfl⟩ := sends _ List.mem_cons_self
    have holds : Function.update w.fdOf .pending none (.tproxy n) = some entry.udpSockfd := by
      rw [Function.update_of_ne (by simp)]
      simp only [UdpWorld.fdOf, atN, Option.map_some]
    have first : UdpInv cfg (w.emit [.sendmmsg entry.udpSockfd msgs]) ⟨none, none, deferred⟩ :=
      { inv with
        ledger := inv.ledger.sendmmsg holds msgs
        served := inv.served.append fun pool call member => by simp at member }
    have rest := ih first fun e member => sends e (List.mem_cons_of_mem _ member)
    simp only [UdpWorld.emit, List.append_assoc, List.singleton_append] at rest
    exact rest

theorem UdpInv.flush (inv : UdpInv cfg w ⟨none, none, deferred⟩) (sends : List UdpTproxySend) :
    UdpInv cfg (udpTproxyFlushClientSends w sends) ⟨none, none, deferred⟩ := by
  refine inv.emit_sends _ fun effect member => ?_
  obtain ⟨call, _, found⟩ := List.mem_filterMap.mp member
  obtain ⟨entry, atN, rfl⟩ := Option.map_eq_some_iff.mp found
  exact ⟨call.1, entry, call.2, atN, rfl⟩

theorem UdpInv.free_deferred (inv : UdpInv cfg w ⟨none, none, deferred⟩) :
    UdpInv cfg (deferred.foldl (udpTproxyEntryFree cfg) w) .idle := by
  induction deferred generalizing w with
  | nil => exact inv
  | cons n deferred ih => exact ih inv.tproxy_free

/-- A batch of replies keeps the invariant. -/
theorem UdpInv.server_reply (inv : UdpInv cfg w .idle) (a : Nat) (packets : List UdpReplyPacket)
    (now : EvTstamp) : UdpInv cfg (udpRelayOnServerReply cfg w a packets now) .idle := by
  unfold udpRelayOnServerReply
  split
  · exact inv
  · exact inv
  · have touched : UdpInv cfg (udpSessionTouch w a now) .idle := UdpInv.touch inv a now
    refine UdpInv.free_deferred (UdpInv.flush (UdpInv.reply_steps _ _ _ _ touched ?_).1 _)
    rw [List.length_nil, Nat.zero_add]
    exact List.length_take_le ..

theorem UdpInv.visit_session (inv : UdpInv cfg w .idle) (nat : UdpNat) (now timeout : EvTstamp)
    (cur : Nat) : UdpInv cfg (udpGcVisitSession cfg nat now timeout w cur) .idle := by
  unfold udpGcVisitSession
  split
  · exact inv
  · rename_i node atCur
    split
    · exact UdpInv.close inv atCur
    · exact inv

theorem UdpInv.clear_session (inv : UdpInv cfg w .idle) (nat : UdpNat) (cur : Nat) :
    UdpInv cfg (udpSessionClearCb cfg nat w cur) .idle := by
  unfold udpSessionClearCb
  split
  · exact inv
  · rename_i node atCur
    exact UdpInv.close inv atCur

theorem UdpInv.sweep_sessions (inv : UdpInv cfg w .idle) (nat : UdpNat) (now timeout : EvTstamp) :
    UdpInv cfg (udpGcSweepSessions cfg nat now timeout w) .idle := by
  unfold udpGcSweepSessions
  generalize (w.nodes nat).table = table
  induction table generalizing w with
  | nil => exact inv
  | cons cur table ih => exact ih (inv.visit_session nat now timeout cur)

theorem UdpInv.node_clear (inv : UdpInv cfg w .idle) (nat : UdpNat) :
    UdpInv cfg (udpNodeClear cfg nat w) .idle := by
  unfold udpNodeClear
  generalize (w.nodes nat).table = table
  induction table generalizing w with
  | nil => exact inv
  | cons cur table ih => exact ih (inv.clear_session nat cur)

/-- What closing an entry leaves in the table. -/
theorem udpTproxyEntryClose_table (cfg : UdpConfig) (w : UdpWorld) (n : Nat) :
    (udpTproxyEntryClose cfg w n).tproxy.table = w.tproxy.table.erase n := by
  unfold udpTproxyEntryClose udpTproxyEntryFree
  split <;> rfl

/-- A round of an iteration over tproxy entries may close the current entry,
and then the entries to come are still indexed. -/
theorem UdpInv.visit_tproxy (visit : UdpWorld → Nat → UdpWorld)
    (closes : ∀ w n, visit w n = w ∨ visit w n = udpTproxyEntryClose cfg w n) {table : List Nat}
    (inv : UdpInv cfg w .idle) (listed : ∀ m ∈ table, m ∈ w.tproxy.table) (distinct : table.Nodup) :
    UdpInv cfg (table.foldl visit w) .idle := by
  induction table generalizing w with
  | nil => exact inv
  | cons cur table ih =>
    obtain ⟨apart, distinct'⟩ := List.nodup_cons.mp distinct
    rcases closes w cur with kept | closed
    · rw [List.foldl_cons, kept]
      exact ih inv (fun m member => listed m (List.mem_cons_of_mem _ member)) distinct'
    · rw [List.foldl_cons, closed]
      refine ih (UdpInv.tproxy_close inv (listed cur List.mem_cons_self)) (fun m member => ?_) distinct'
      have differ : m ≠ cur := fun same => apart (same ▸ member)
      rw [udpTproxyEntryClose_table]
      exact (List.mem_erase_of_ne differ).mpr (listed m (List.mem_cons_of_mem _ member))

theorem UdpInv.sweep_tproxy (inv : UdpInv cfg w .idle) (now timeout : EvTstamp) :
    UdpInv cfg (udpGcSweepTproxyEntries cfg now timeout w) .idle := by
  refine inv.visit_tproxy _ (fun w n => ?_) (fun _ member => member)
    (List.nodup_append.mp inv.tproxy.nodup).1
  unfold udpGcVisitTproxy
  split
  · exact Or.inl rfl
  · split
    · exact Or.inr rfl
    · exact Or.inl rfl

theorem UdpInv.tproxy_clear (inv : UdpInv cfg w .idle) :
    UdpInv cfg (udpTproxyEntryClear cfg w) .idle :=
  inv.visit_tproxy _ (fun _ _ => Or.inr rfl) (fun _ member => member)
    (List.nodup_append.mp inv.tproxy.nodup).1

/-- Every callback keeps the invariant. -/
theorem UdpInv.step (inv : UdpInv cfg w .idle) (event : UdpEvent cfg) :
    UdpInv cfg (udpStep cfg w event) .idle := by
  cases event with
  | recvmsg packets now =>
    simp only [udpStep, udpProxyOnRecvmsg]
    generalize packets.take udpBatchSize = batch
    induction batch generalizing w with
    | nil => exact inv
    | cons packet batch ih => exact ih (inv.handle_ingress packet.2 packet.1 now)
  | serverReply session packets now => exact inv.server_reply session packets now
  | gcTick now =>
    exact ((inv.sweep_sessions .fullcone now _).sweep_sessions .symmetric now _).sweep_tproxy now _
  | closeAll => exact ((inv.node_clear .fullcone).node_clear .symmetric).tproxy_clear

theorem UdpInv.run (inv : UdpInv cfg w .idle) (events : List (UdpEvent cfg)) :
    UdpInv cfg (udpRun cfg w events) .idle := by
  unfold udpRun
  induction events generalizing w with
  | nil => exact inv
  | cons event events ih => exact ih (inv.step event)

/-- A pool that the event loop made has its limit and no block in use. -/
theorem udpPoolCreate_holds {pool : UdpPool} {answer : UdpPoolAnswer cfg pool} {p : MemoryPool}
    (created : udpPoolCreate cfg pool answer = some p) (bounded : 0 < cfg.maxBlocks pool) {ρ : Type} :
    (PoolArena.mk (some p) fun _ => (none : Option ρ)).Holds (cfg.blockSize pool)
      (cfg.maxBlocks pool) 0 := by
  obtain ⟨size, inv⟩ := mempoolCreate_inv (cfg.blockSize_fits pool) answer.places created
  have limit := mempoolCreate_maxBlocks created
  rw [if_neg (Nat.ne_of_gt bounded)] at limit
  exact .of_create size limit inv

/-- A new world has done nothing and has no session and no node. -/
theorem udpWorldCreate_empty {answer : (pool : UdpPool) → UdpPoolAnswer cfg pool}
    (created : udpWorldCreate cfg answer = some w) : w.trace = [] ∧
      (∀ a, w.sessions.record a = none) ∧ ∀ nat n, (w.nodes nat).record n = none := by
  simp only [udpWorldCreate, Option.bind_eq_bind, Option.bind_eq_some_iff] at created
  obtain ⟨_, _, _, _, _, _, _, _, made⟩ := created
  cases made
  refine ⟨rfl, fun _ => rfl, fun nat n => ?_⟩
  cases nat <;> rfl

theorem udpWorldCreate_inv {answer : (pool : UdpPool) → UdpPoolAnswer cfg pool}
    (created : udpWorldCreate cfg answer = some w) : UdpInv cfg w .idle := by
  simp only [udpWorldCreate, Option.bind_eq_bind, Option.bind_eq_some_iff] at created
  obtain ⟨sessionPool, session, fullconePool, fullcone, symmetricPool, symmetric, tproxyPool, tproxy,
    made⟩ := created
  cases made
  have atSymmetric : (PoolArena.mk symmetricPool fun _ => (none : Option (UdpNode UdpSymmetricKey))).Holds
      (cfg.nodeSize .symmetric) (cfg.maxBlocks (.node .symmetric)) 0 := by
    unfold udpSymmetricPoolCreate at symmetric
    cases on : cfg.fakednsEnabled with
    | true =>
      rw [if_pos on] at symmetric
      obtain ⟨p, created, rfl⟩ := Option.map_eq_some_iff.mp symmetric
      refine udpPoolCreate_holds created ?_
      simp only [UdpConfig.maxBlocks, on, if_true]
      exact Nat.succ_pos _
    | false =>
      rw [if_neg (by rw [on]; exact Bool.false_ne_true)] at symmetric
      cases symmetric
      refine ⟨[], rfl, ⟨?_, rfl⟩, by simp⟩
      simp only [UdpConfig.maxBlocks, on, Bool.false_eq_true, if_false]
  refine
    { links := NatLinks.empty (fun _ => rfl) (fun nat => ?_) fun nat n => ?_
      sessions := udpPoolCreate_holds session (Nat.succ_pos _)
      nodes := fun nat => ?_
      tproxy := ?_
      ledger := ?_
      served := fun pool call member => by cases member
      sizes := fun nat => ?_
      off := fun _ => rfl }
  · cases nat <;> rfl
  · cases nat <;> rfl
  · cases nat with
    | fullcone => exact udpPoolCreate_holds fullcone (Nat.succ_pos _)
    | symmetric => exact atSymmetric
  · refine ⟨udpPoolCreate_holds tproxy ?_, by simp [UdpHidden.idle], List.nodup_nil, by simp,
      Nat.zero_le _⟩
    exact Nat.add_pos_right _ (by decide)
  · refine Ledger.empty.congr ?_ fun pool a => ?_
    · funext owner
      cases owner <;> rfl
    · cases pool with
      | session => simp [UdpWorld.Live]
      | node nat => cases nat <;> simp [UdpWorld.Live]
      | tproxy => simp [UdpWorld.Live]
  · cases nat <;> exact Nat.zero_le _

end Tproxy
