import Tproxy.Udp.NatTable
import Tproxy.Udp.Sweep

namespace Tproxy

/-- The sessions that the nodes of a table refer to. -/
def UdpWorld.indexedBy (w : UdpWorld) (nat : UdpNat) : List Nat :=
  (w.nodes nat).table.filterMap fun n => ((w.nodes nat).record n).map UdpNode.session

/-- The sessions that the two tables refer to. -/
def UdpWorld.indexed (w : UdpWorld) : List Nat := w.indexedBy .fullcone ++ w.indexedBy .symmetric

def UdpWorld.pool (w : UdpWorld) : UdpPool → Option MemoryPool
  | .session => w.sessions.pool
  | .node nat => (w.nodes nat).pool
  | .tproxy => w.tproxy.pool

/-- Every resource was opened and closed, or handed out and freed, in turn, and
what is left belongs to the sessions and entries of the tables: one server
socket and one block for each session, one block for each node, one socket and
one block for each tproxy entry. -/
structure UdpConserved (w : UdpWorld) : Prop where
  audited : Audited w.trace
  live : ∀ a, (w.sessions.record a).isSome ↔ a ∈ w.indexed
  sessionCount : w.indexed.length = (w.nodes .fullcone).table.length + (w.nodes .symmetric).table.length
  sessionBlocks : (heldBlocks .session w.trace).Perm w.indexed
  nodeBlocks : ∀ nat, (heldBlocks (.node nat) w.trace).Perm (w.nodes nat).table
  tproxyBlocks : (heldBlocks .tproxy w.trace).Perm w.tproxy.table
  sockets : (openFds w.trace).Perm ((w.indexed.filterMap fun a => w.fdOf (.session a)) ++
    w.tproxy.table.filterMap fun n => w.fdOf (.tproxy n))
  socketCount : (openFds w.trace).length = w.indexed.length + w.tproxy.table.length

/-- Nothing is left, and no pool finds a leaked block when it is destroyed. -/
structure UdpReleased (w : UdpWorld) : Prop where
  audited : Audited w.trace
  sockets : openFds w.trace = []
  blocks : ∀ pool, heldBlocks pool w.trace = []
  pools : ∀ pool p, w.pool pool = some p → mempoolDestroy p = 0

variable {cfg : UdpConfig} {w : UdpWorld}

theorem UdpInv.mem_indexedBy (inv : UdpInv cfg w .idle) {nat : UdpNat} {a : Nat} :
    a ∈ w.indexedBy nat ↔ ∃ n, w.Refers nat n a := by
  simp only [UdpWorld.indexedBy, List.mem_filterMap, Option.map_eq_some_iff, UdpWorld.Refers]
  refine exists_congr fun n => and_iff_right_of_imp ?_
  rintro ⟨x, atN, _⟩
  exact (inv.links.live nat n).mp (by rw [atN]; rfl)

theorem UdpInv.indexedBy_length (inv : UdpInv cfg w .idle) (nat : UdpNat) :
    (w.indexedBy nat).length = (w.nodes nat).table.length := by
  rw [UdpWorld.indexedBy, List.length_filterMap_eq_countP, List.countP_eq_length]
  intro n listed
  rw [Option.isSome_map]
  exact (inv.links.live nat n).mpr listed

theorem UdpInv.indexed_nodup (inv : UdpInv cfg w .idle) : w.indexed.Nodup := by
  have each : ∀ nat, (w.indexedBy nat).Nodup := fun nat => by
    refine (inv.links.nodup nat).filterMap fun n m a fromN fromM => ?_
    obtain ⟨x, atN, rfl⟩ := Option.map_eq_some_iff.mp fromN
    obtain ⟨y, atM, same⟩ := Option.map_eq_some_iff.mp fromM
    exact (inv.links.node_unique atN atM same.symm).2
  refine List.nodup_append.mpr ⟨each .fullcone, each .symmetric, fun a inF b inS same => ?_⟩
  subst same
  obtain ⟨n, x, atN, back⟩ := inv.mem_indexedBy.mp inF
  obtain ⟨m, y, atM, back'⟩ := inv.mem_indexedBy.mp inS
  cases (inv.links.node_unique atN atM (back.trans back'.symm)).1

/-- The live sessions are those that the tables refer to. -/
theorem UdpInv.live_iff (inv : UdpInv cfg w .idle) (a : Nat) :
    (w.sessions.record a).isSome ↔ a ∈ w.indexed := by
  rw [UdpWorld.indexed, List.mem_append, inv.mem_indexedBy, inv.mem_indexedBy]
  constructor
  · intro live
    obtain ⟨s, atA⟩ := Option.isSome_iff_exists.mp live
    obtain ⟨n, x, _, atN, back⟩ := inv.links.session a s atA
    have refers : w.Refers s.nat n a := ⟨x, atN, back⟩
    cases side : s.nat with
    | fullcone =>
      rw [side] at refers
      exact Or.inl ⟨n, refers⟩
    | symmetric =>
      rw [side] at refers
      exact Or.inr ⟨n, refers⟩
  · rintro (⟨n, x, atN, rfl⟩ | ⟨n, x, atN, rfl⟩) <;>
      obtain ⟨s, atA, _⟩ := inv.links.node _ n x atN <;>
      exact Option.isSome_iff_exists.mpr ⟨s, atA⟩

theorem UdpInv.conserved (inv : UdpInv cfg w .idle) : UdpConserved w := by
  have ledger := inv.ledger
  have tproxyLive : ∀ n, (w.tproxy.record n).isSome ↔ n ∈ w.tproxy.table := fun n => by
    rw [inv.tproxy.live n]
    exact List.mem_append.trans (or_iff_left List.not_mem_nil)
  have tproxyNodup : w.tproxy.table.Nodup := (List.nodup_append.mp inv.tproxy.nodup).1
  have fds : Owned (openFds w.trace) w.fdOf := by
    have owned := ledger.fds
    rwa [show UdpHidden.idle.fd = none from rfl, update_pending_none] at owned
  have owners : (w.indexed.map UdpFdOwner.session ++ w.tproxy.table.map UdpFdOwner.tproxy).Nodup := by
    refine List.nodup_append.mpr ⟨inv.indexed_nodup.map fun _ _ => UdpFdOwner.session.inj,
      tproxyNodup.map fun _ _ => UdpFdOwner.tproxy.inj, fun o inS o' inT same => ?_⟩
    obtain ⟨a, _, rfl⟩ := List.mem_map.mp inS
    obtain ⟨n, _, rfl⟩ := List.mem_map.mp inT
    cases same
  have complete : ∀ o, (w.fdOf o).isSome ↔
      o ∈ w.indexed.map UdpFdOwner.session ++ w.tproxy.table.map UdpFdOwner.tproxy := fun o => by
    cases o with
    | session a => simp [UdpWorld.fdOf, inv.live_iff]
    | tproxy n => simp [UdpWorld.fdOf, tproxyLive]
    | pending => simp [UdpWorld.fdOf]
  refine
    { audited := ledger.audited
      live := inv.live_iff
      sessionCount := ?_
      sessionBlocks := ?_
      nodeBlocks := fun nat => ?_
      tproxyBlocks := ?_
      sockets := ?_
      socketCount := ?_ }
  · rw [UdpWorld.indexed, List.length_append, inv.indexedBy_length, inv.indexedBy_length]
  · exact (List.perm_ext_iff_of_nodup (ledger.nodup .session) inv.indexed_nodup).mpr fun a =>
      (ledger.blocks .session a).trans (inv.live_iff a)
  · exact (List.perm_ext_iff_of_nodup (ledger.nodup (.node nat)) (inv.links.nodup nat)).mpr fun n =>
      (ledger.blocks (.node nat) n).trans (inv.links.live nat n)
  · exact (List.perm_ext_iff_of_nodup (ledger.nodup .tproxy) tproxyNodup).mpr fun n =>
      (ledger.blocks .tproxy n).trans (tproxyLive n)
  · have listed := fds.perm_owners owners complete
    rw [List.filterMap_append, List.filterMap_map, List.filterMap_map] at listed
    exact listed
  · rw [fds.length_eq owners complete, List.length_append, List.length_map, List.length_map]

/-- Every block of a pool that is not free belongs to a live record. -/
theorem UdpConserved.released (conserved : UdpConserved w) (inv : UdpInv cfg w .idle)
    (noNode : ∀ nat, (w.nodes nat).table = []) (noEntry : w.tproxy.table = []) : UdpReleased w where
  audited := conserved.audited
  sockets := by
    have none := conserved.socketCount
    rw [conserved.sessionCount, noNode, noNode, noEntry] at none
    exact List.length_eq_zero_iff.mp none
  blocks pool := by
    have noSession := conserved.sessionCount
    rw [noNode, noNode] at noSession
    cases pool with
    | session =>
      have same := conserved.sessionBlocks
      rw [List.length_eq_zero_iff.mp noSession] at same
      exact same.eq_nil
    | node nat =>
      have same := conserved.nodeBlocks nat
      rw [noNode] at same
      exact same.eq_nil
    | tproxy =>
      have same := conserved.tproxyBlocks
      rw [noEntry] at same
      exact same.eq_nil
  pools pool p present := by
    cases pool with
    | session =>
      have count := inv.sessions.destroy present
      simp only [tableCount, noNode] at count
      exact count
    | node nat =>
      have count := (inv.nodes nat).destroy present
      rw [noNode] at count
      exact count
    | tproxy =>
      have count := inv.tproxy.holds.destroy present
      rw [noEntry] at count
      exact count

/-- Clearing a session table empties it and leaves the others alone. -/
theorem UdpInv.node_clear_table (inv : UdpInv cfg w .idle) (nat : UdpNat) :
    ((udpNodeClear cfg nat w).nodes nat).table = [] ∧
      ∀ side, side ≠ nat → (udpNodeClear cfg nat w).nodes side = w.nodes side := by
  obtain ⟨_, swept⟩ := inv.sweep (fun _ : UdpNode nat.Key => true) (List.nil_append _).symm
  rw [← udpSessionClearCb_eq] at swept
  refine ⟨?_, swept.others⟩
  have table := swept.table
  rw [List.nil_append] at table
  refine table.trans (List.filter_eq_nil_iff.mpr fun n listed => ?_)
  obtain ⟨x, atN⟩ := Option.isSome_iff_exists.mp ((inv.links.live nat n).mpr listed)
  simp only [UdpWorld.drops, atN, Option.any_some, Bool.not_true, Bool.false_eq_true, not_false_eq_true]

theorem udpTproxyEntryClear_table (cfg : UdpConfig) (w : UdpWorld) :
    (udpTproxyEntryClear cfg w).tproxy.table = [] ∧ (udpTproxyEntryClear cfg w).nodes = w.nodes := by
  unfold udpTproxyEntryClear
  generalize left : w.tproxy.table = table
  induction table generalizing w with
  | nil => exact ⟨left, rfl⟩
  | cons n table ih =>
    have rest : (udpTproxyEntryClose cfg w n).tproxy.table = table := by
      rw [udpTproxyEntryClose_table, left, List.erase_cons_head]
    have same : (udpTproxyEntryClose cfg w n).nodes = w.nodes := by
      unfold udpTproxyEntryClose udpTproxyEntryFree
      split <;> rfl
    obtain ⟨empty, nodes⟩ := ih (udpTproxyEntryClose cfg w n) rest
    exact ⟨empty, nodes.trans same⟩

/-- In every run the sockets and blocks in use are those of the tables, and
after the final clean-up none is left. -/
theorem udp_conserved (reach : UdpReach cfg w) :
    UdpConserved w ∧ UdpReleased (udpProxyCloseAllSessions cfg w) := by
  have inv := reach.inv
  refine ⟨inv.conserved, ?_⟩
  have after : UdpInv cfg (udpProxyCloseAllSessions cfg w) .idle := inv.step .closeAll
  refine after.conserved.released after (fun nat => ?_) (udpTproxyEntryClear_table cfg _).1
  obtain ⟨fullcone, _⟩ := inv.node_clear_table .fullcone
  obtain ⟨symmetric, others⟩ := (inv.node_clear .fullcone).node_clear_table .symmetric
  rw [udpProxyCloseAllSessions, (udpTproxyEntryClear_table cfg _).2]
  cases nat with
  | fullcone =>
    rw [others .fullcone (by decide)]
    exact fullcone
  | symmetric => exact symmetric

/-- An eviction, a failed connection and a reply from a new source on the way. -/
theorem udp_conserved_replies : ∃ w, UdpReach udpTinyConfig w ∧ w.indexed.length = 1 ∧
    w.tproxy.table.length = 1 ∧
    UdpConserved w ∧ UdpReleased (udpProxyCloseAllSessions udpTinyConfig w) :=
  ⟨_, udpTinyStart_reach
    [.recvmsg [udpTinyPacket 1 none, udpTinyPacket 2 none,
        ((udpTinyPacket 3 none).1, { (udpTinyPacket 3 none).2 with connected := false })] 5,
      .serverReply udpTinySession [⟨some (.ipv4 53 [10, 0, 0, 9], [1]), udpTinySocket, true,
        fun _ => ⟨none, fun _ refused => by cases refused⟩⟩] 6],
    by decide +kernel, by decide +kernel, udp_conserved (udpTinyStart_reach _)⟩

end Tproxy
