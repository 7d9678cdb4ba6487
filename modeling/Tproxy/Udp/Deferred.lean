import Tproxy.Udp.Batches
import Tproxy.Udp.NatTable

namespace Tproxy

/-- The state of `udp_relay_on_server_reply` after `k` packets of the batch. -/
def udpReplyBatch (cfg : UdpConfig) (w : UdpWorld) (a : Nat) (s : UdpSession)
    (packets : List UdpReplyPacket) (now : EvTstamp) (k : Nat) : UdpReplyBatch :=
  (packets.take k).foldl (udpReplyStep cfg s now) ⟨udpSessionTouch w a now, [], []⟩

/-- Between two states no tproxy entry was closed or freed, and every entry
kept its source endpoint and its socket. -/
def EntriesKept (before after : UdpWorld) : Prop :=
  ∃ effects, after.trace = before.trace ++ effects ∧
    ∀ n x, before.tproxy.record n = some x →
      .free .tproxy n ∉ effects ∧ .closed x.udpSockfd ∉ effects ∧
        ∃ y, after.tproxy.record n = some y ∧ y.key = x.key ∧ y.udpSockfd = x.udpSockfd

/-- What evicting late does for a batch of `n` packets that goes through the
states `batch` and ends in `final`. -/
structure UdpDeferral (batch : Nat → UdpReplyBatch) (n : Nat) (final : UdpWorld) : Prop where
  kept : ∀ k < n, EntriesKept (batch k).world (batch (k + 1)).world
  queued : ∀ k ≤ n, ∀ send ∈ (batch k).sends, ∃ entry,
    (batch k).world.tproxy.record send.sourceEntry = some entry ∧
      entry.udpSockfd ∈ openFds (batch k).world.trace
  bounded : ∀ k ≤ n, (batch k).deferred.length ≤ udpBatchSize
  evicted : ∀ k ≤ n, (batch k).deferred.Nodup ∧ ∀ m, m ∈ (batch k).deferred ↔
    ((batch k).world.tproxy.record m).isSome ∧ m ∉ (batch k).world.tproxy.table
  freed : ∃ fd : Nat → Nat, (∀ m x, (batch n).world.tproxy.record m = some x → fd m = x.udpSockfd) ∧
    final.trace = (batch n).world.trace ++
      (udpFlushCalls (batch n).sends).map (fun call => .sendmmsg (fd call.1) call.2) ++
      (batch n).deferred.flatMap fun m => [.closed (fd m), .free .tproxy m]
  table : final.tproxy.table = (batch n).world.tproxy.table
  live : ∀ m, (final.tproxy.record m).isSome ↔ m ∈ final.tproxy.table
  keys : ∀ m ∈ final.tproxy.table, ∀ k ∈ final.tproxy.table, ∀ x y,
    final.tproxy.record m = some x → final.tproxy.record k = some y → x.key = y.key → m = k

variable {cfg : UdpConfig} {w w' : UdpWorld} {s : UdpSession} {packet : UdpReplyPacket}
  {packets : List UdpReplyPacket} {now : EvTstamp} {batch : UdpReplyBatch} {deferred deferred' : List Nat}
  {replySrc : UdpEndpointKey} {result : Option Nat} {fd n a : Nat}

theorem EntriesKept.refl (w : UdpWorld) : EntriesKept w w :=
  ⟨[], (List.append_nil _).symm, fun _ x atN =>
    ⟨List.not_mem_nil, List.not_mem_nil, x, atN, rfl, rfl⟩⟩

/-- The socket of a live entry is open. -/
theorem UdpInv.tproxy_open (inv : UdpInv cfg w ⟨none, none, deferred⟩) {x : UdpTproxyEntry}
    (atN : w.tproxy.record n = some x) : x.udpSockfd ∈ openFds w.trace := by
  refine inv.ledger.fds.mem (o := .tproxy n) ?_
  rw [Function.update_of_ne (by simp), UdpWorld.fdOf, atN]
  rfl

/-- Creating an entry evicts, but closes nothing except its own new socket. -/
theorem UdpInv.entry_create_kept (inv : UdpInv cfg w ⟨none, none, deferred⟩)
    (fresh : fd ∉ openFds w.trace)
    (run : udpTproxyEntryCreate cfg packet (w.emit [.opened fd]) deferred replySrc fd now =
      (w', deferred', result)) :
    EntriesKept w w' ∧ ∀ m ∈ result, (w'.tproxy.record m).isSome := by
  have other : ∀ {m x}, w.tproxy.record m = some x → x.udpSockfd ≠ fd := fun atM same =>
    fresh (same ▸ inv.tproxy_open atM)
  unfold udpTproxyEntryCreate at run
  rcases alloced : w.tproxy.toPoolArena.alloc packet.memalign cfg.tproxySize ⟨replySrc, fd, now⟩ with
    ⟨after, call⟩
  simp only [UdpWorld.emit, alloced] at run
  cases got : call.result with
  | none =>
    simp only [got] at run
    cases run
    obtain ⟨_, record, _⟩ := inv.tproxy.holds.alloc_none alloced got
    refine ⟨⟨[.opened fd, .alloc .tproxy call, .closed fd], by simp, fun m x atM => ?_⟩, by simp⟩
    refine ⟨by simp, by simpa using other atM, x, ?_, rfl, rfl⟩
    simp only [record]
    exact atM
  | some n =>
    simp only [got] at run
    cases run
    obtain ⟨_, unused, record⟩ := inv.tproxy.holds.alloc_some alloced got
    have added : ∀ m, (UdpCache.add { w.tproxy with toPoolArena := after } cfg.tproxyMaxsize n).1.record m =
        Function.update w.tproxy.record n (some ⟨replySrc, fd, now⟩) m := fun m => by
      rw [← record]
      rfl
    refine ⟨⟨[.opened fd, .alloc .tproxy call], by simp, fun m x atM => ?_⟩, ?_⟩
    · have differ : m ≠ n := fun same => by
        rw [same, unused] at atM
        cases atM
      refine ⟨by simp, by simp, x, ?_, rfl, rfl⟩
      rw [added, Function.update_of_ne differ]
      exact atM
    · rintro m ⟨⟩
      rw [added, Function.update_self]
      rfl

/-- Finding or creating an entry for a reply closes no entry, and the entry it
returns is live. -/
theorem UdpInv.entry_kept (inv : UdpInv cfg w ⟨none, none, deferred⟩)
    (run : udpTproxyEntryGetOrCreate cfg packet w deferred replySrc now = (w', deferred', result)) :
    EntriesKept w w' ∧ ∀ m ∈ result, (w'.tproxy.record m).isSome := by
  unfold udpTproxyEntryGetOrCreate at run
  cases hit : w.tproxy.find replySrc with
  | some n =>
    have found := List.find?_some hit
    obtain ⟨entry, atN, -⟩ := (Option.any_eq_true _ _).mp found
    simp only [hit, atN] at run
    cases run
    refine ⟨⟨[], (List.append_nil _).symm, fun m x atM => ⟨List.not_mem_nil, List.not_mem_nil, ?_⟩⟩, ?_⟩
    · by_cases same : m = n
      · subst same
        rw [atN] at atM
        cases atM
        exact ⟨_, Function.update_self .., rfl, rfl⟩
      · exact ⟨x, (Function.update_of_ne same ..).trans atM, rfl, rfl⟩
    · rintro m ⟨⟩
      simp only [PoolArena.write, Function.update_self, Option.isSome_some]
  | none =>
    simp only [hit] at run
    split at run
    · cases run
      exact ⟨.refl w, by simp⟩
    · rename_i fd _
      split at run
      · exact inv.entry_create_kept fd.2 run
      · cases run
        refine ⟨⟨[.opened fd, .closed fd], rfl, fun m x atM => ⟨by simp, ?_, x, atM, rfl, rfl⟩⟩, by simp⟩
        have other : x.udpSockfd ≠ fd := fun same => fd.2 (same ▸ inv.tproxy_open atM)
        simpa using other

/-- One packet of the batch closes no entry. What it queues is live. -/
theorem UdpInv.reply_step_kept (inv : UdpInv cfg batch.world ⟨none, none, batch.deferred⟩)
    (s : UdpSession) (now : EvTstamp) (packet : UdpReplyPacket) :
    EntriesKept batch.world (udpReplyStep cfg s now batch packet).world ∧
      ∀ send ∈ (udpReplyStep cfg s now batch packet).sends, send ∈ batch.sends ∨
        ((udpReplyStep cfg s now batch packet).world.tproxy.record send.sourceEntry).isSome := by
  unfold udpReplyStep
  split
  · exact ⟨.refl _, fun send queued => Or.inl queued⟩
  · split
    · exact ⟨.refl _, fun send queued => Or.inl queued⟩
    · split <;> rename_i run
      · exact ⟨(inv.entry_kept run).1, fun send queued => Or.inl queued⟩
      · obtain ⟨kept, live⟩ := inv.entry_kept run
        refine ⟨kept, fun send queued => ?_⟩
        rcases List.mem_append.mp queued with old | new
        · exact Or.inl old
        · rw [List.mem_singleton.mp new]
          exact Or.inr (live _ rfl)

theorem udpReplyBatch_succ (w : UdpWorld) (a : Nat) (s : UdpSession) (now : EvTstamp) {k : Nat}
    (more : k < packets.length) :
    udpReplyBatch cfg w a s packets now (k + 1) =
      udpReplyStep cfg s now (udpReplyBatch cfg w a s packets now k) packets[k] := by
  rw [udpReplyBatch, List.take_succ_eq_append_getElem more, List.foldl_append]
  rfl

theorem UdpInv.reply_batch (inv : UdpInv cfg w .idle) (a : Nat) (s : UdpSession) (now : EvTstamp)
    (small : packets.length ≤ udpBatchSize) {k : Nat} (within : k ≤ packets.length) :
    UdpInv cfg (udpReplyBatch cfg w a s packets now k).world
        ⟨none, none, (udpReplyBatch cfg w a s packets now k).deferred⟩ ∧
      (udpReplyBatch cfg w a s packets now k).deferred.length ≤ k := by
  have touched : UdpInv cfg (udpSessionTouch w a now) ⟨none, none, []⟩ := UdpInv.touch inv a now
  have length : (packets.take k).length = k := List.length_take_of_le within
  obtain ⟨after, bound⟩ := UdpInv.reply_steps s now (packets.take k)
    ⟨udpSessionTouch w a now, [], []⟩ touched (by rw [List.length_nil, length]; omega)
  rw [length, List.length_nil, Nat.zero_add] at bound
  exact ⟨after, bound⟩

theorem EntriesKept.live (kept : EntriesKept w w') (before : (w.tproxy.record n).isSome) :
    (w'.tproxy.record n).isSome := by
  obtain ⟨x, atN⟩ := Option.isSome_iff_exists.mp before
  obtain ⟨_, _, keeps⟩ := kept
  obtain ⟨_, _, y, after, _⟩ := keeps n x atN
  rw [after]
  rfl

/-- The entries of all queued datagrams are live after every packet. -/
theorem UdpInv.reply_queued (inv : UdpInv cfg w .idle) (a : Nat) (s : UdpSession) (now : EvTstamp)
    (small : packets.length ≤ udpBatchSize) {k : Nat} (within : k ≤ packets.length) :
    ∀ send ∈ (udpReplyBatch cfg w a s packets now k).sends,
      ((udpReplyBatch cfg w a s packets now k).world.tproxy.record send.sourceEntry).isSome := by
  induction k with
  | zero => simp [udpReplyBatch]
  | succ k ih =>
    obtain ⟨before, _⟩ := inv.reply_batch a s now small (k := k) (by omega)
    obtain ⟨kept, queued⟩ := before.reply_step_kept s now packets[k]
    rw [udpReplyBatch_succ w a s now within]
    intro send mem
    rcases queued send mem with old | new
    · exact kept.live (ih (by omega) send old)
    · exact new

theorem udpTproxyEntryFree_eq (cfg : UdpConfig) {x : UdpTproxyEntry} (atN : w.tproxy.record n = some x) :
    udpTproxyEntryFree cfg w n =
      { w with
        tproxy := { w.tproxy with toPoolArena := w.tproxy.free n cfg.tproxySize }
        trace := w.trace ++ [.closed x.udpSockfd, .free .tproxy n] } := by
  rw [udpTproxyEntryFree, atN]

/-- The loop over the deferred entries closes and frees each of them once. -/
theorem udpTproxyEntryFree_all (cfg : UdpConfig) (fd : Nat → Nat) (w : UdpWorld)
    (distinct : deferred.Nodup)
    (live : ∀ m ∈ deferred, ∃ x, w.tproxy.record m = some x ∧ fd m = x.udpSockfd) :
    (deferred.foldl (udpTproxyEntryFree cfg) w).trace =
        w.trace ++ deferred.flatMap (fun m => [.closed (fd m), .free .tproxy m]) ∧
      (deferred.foldl (udpTproxyEntryFree cfg) w).tproxy.table = w.tproxy.table := by
  induction deferred generalizing w with
  | nil => simp
  | cons m deferred ih =>
    obtain ⟨apart, later⟩ := List.nodup_cons.mp distinct
    obtain ⟨x, atM, socket⟩ := live m List.mem_cons_self
    have freed := udpTproxyEntryFree_eq cfg atM
    obtain ⟨trace, table⟩ := ih (udpTproxyEntryFree cfg w m) later fun k listed => by
      obtain ⟨y, atK, same⟩ := live k (List.mem_cons_of_mem _ listed)
      have differ : k ≠ m := fun equal => apart (equal ▸ listed)
      refine ⟨y, ?_, same⟩
      rw [freed]
      exact (Function.update_of_ne differ ..).trans atK
    rw [List.foldl_cons, trace, table, freed, List.flatMap_cons, socket]
    exact ⟨List.append_assoc .., rfl⟩

/-- A batch of replies is handled packet by packet, then it is sent, and then
the evicted entries are freed. -/
theorem udpRelayOnServerReply_eq (now : EvTstamp) (atA : w.sessions.record a = some s)
    (received : packets ≠ []) (small : packets.length ≤ udpBatchSize) :
    udpRelayOnServerReply cfg w a packets now =
      (udpReplyBatch cfg w a s packets now packets.length).deferred.foldl (udpTproxyEntryFree cfg)
        (udpTproxyFlushClientSends (udpReplyBatch cfg w a s packets now packets.length).world
          (udpReplyBatch cfg w a s packets now packets.length).sends) := by
  rw [udpRelayOnServerReply, atA, List.take_of_length_le small]
  cases packets with
  | nil => exact absurd rfl received
  | cons packet rest =>
    simp only
    rw [udpReplyBatch, List.take_length]

/-- The deferred entries are the live ones outside the table. -/
theorem TproxyInv.evicted_iff {cache : UdpCache UdpTproxyEntry} (inv : TproxyInv cfg cache deferred) :
    deferred.Nodup ∧ ∀ m, m ∈ deferred ↔ (cache.record m).isSome ∧ m ∉ cache.table := by
  obtain ⟨_, distinct, apart⟩ := List.nodup_append.mp inv.nodup
  refine ⟨distinct, fun m => ?_⟩
  rw [inv.live, List.mem_append]
  constructor
  · exact fun listed => ⟨Or.inr listed, fun inTable => apart m inTable m listed rfl⟩
  · rintro ⟨inTable | listed, outside⟩
    · exact absurd inTable outside
    · exact listed

/-- A batch of replies never closes or frees an entry that a queued datagram
refers to. It frees what it evicted once, after the datagrams are sent. -/
theorem udpReply_deferral (reach : UdpReach cfg w) (atA : w.sessions.record a = some s)
    (received : packets ≠ []) (small : packets.length ≤ udpBatchSize) :
    UdpDeferral (udpReplyBatch cfg w a s packets now) packets.length
      (udpRelayOnServerReply cfg w a packets now) := by
  have inv := reach.inv
  have after := inv.server_reply a packets now
  have live := inv.reply_queued a s now small (Nat.le_refl packets.length)
  have dead {k : Nat} (within : k ≤ packets.length) :=
    (inv.reply_batch a s now small within).1.tproxy.evicted_iff
  -- the socket of each entry when the loop is over
  let fd := fun m => (((udpReplyBatch cfg w a s packets now packets.length).world.tproxy.record m).map
    UdpTproxyEntry.udpSockfd).getD 0
  have sockets : ∀ m x, (udpReplyBatch cfg w a s packets now packets.length).world.tproxy.record m =
      some x → fd m = x.udpSockfd := fun m x atM => by
    simp only [fd, atM, Option.map_some, Option.getD_some]
  have flushed := udpTproxyFlushClientSends_eq fd fun send queued => by
    obtain ⟨x, atX⟩ := Option.isSome_iff_exists.mp (live send queued)
    exact ⟨x, atX, (sockets _ x atX).symm⟩
  obtain ⟨distinct, evicted⟩ := dead (Nat.le_refl packets.length)
  obtain ⟨trace, table⟩ := udpTproxyEntryFree_all cfg fd
    (udpTproxyFlushClientSends (udpReplyBatch cfg w a s packets now packets.length).world
      (udpReplyBatch cfg w a s packets now packets.length).sends) distinct fun m listed => by
    obtain ⟨x, atM⟩ := Option.isSome_iff_exists.mp ((evicted m).mp listed).1
    exact ⟨x, atM, sockets m x atM⟩
  refine
    { kept := fun k more => ?_
      queued := fun k within send queued => ?_
      bounded := fun k within => ?_
      evicted := fun k within => dead within
      freed := ⟨fd, sockets, ?_⟩
      table := ?_
      live := fun m => ?_
      keys := after.tproxy.keys }
  · rw [udpReplyBatch_succ w a s now more]
    exact ((inv.reply_batch a s now small more.le).1.reply_step_kept s now _).1
  · obtain ⟨x, atX⟩ := Option.isSome_iff_exists.mp (inv.reply_queued a s now small within send queued)
    exact ⟨x, atX, (inv.reply_batch a s now small within).1.tproxy_open atX⟩
  · exact (inv.reply_batch a s now small within).2.trans (within.trans small)
  · rw [udpRelayOnServerReply_eq now atA received small, trace, flushed]
    rfl
  · rw [udpRelayOnServerReply_eq now atA received small, table]
    rfl
  · have listed := after.tproxy.live m
    rwa [UdpHidden.idle, List.append_nil] at listed

/-- Two sessions of one client, and a batch of sixteen replies from as many
sources through a table of four entries. -/
theorem udpReply_deferral_full_batch : ∃ w s packets,
    UdpReach udpTinyConfig w ∧ w.sessions.record udpTinySession = some s ∧ packets.length = udpBatchSize ∧
      UdpDeferral (udpReplyBatch udpTinyConfig w udpTinySession s packets 6) packets.length
        (udpRelayOnServerReply udpTinyConfig w udpTinySession packets 6) := by
  obtain ⟨s, atA⟩ := Option.isSome_iff_exists.mp
    (by decide +kernel : ((udpRun udpTinyConfig udpTinyStart
      [.recvmsg [udpTinyPacket 1 none, udpTinyPacket 2 none] 5]).sessions.record udpTinySession).isSome)
  exact ⟨_, s, (List.range 16).map fun source =>
      ⟨some (.ipv4 source [10, 0, 0, 9], [1]), udpTinySocket, true,
        fun _ => ⟨none, fun _ refused => by cases refused⟩⟩,
    udpTinyStart_reach _, atA, by decide,
    udpReply_deferral (udpTinyStart_reach _) atA (by decide) (by decide)⟩

end Tproxy
