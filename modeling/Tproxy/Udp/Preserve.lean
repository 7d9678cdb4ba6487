import Tproxy.Udp.Replies

namespace Tproxy

variable {cfg : UdpConfig} {w w' : UdpWorld} {n fd : Nat} {deferred deferred' : List Nat}
  {now : EvTstamp} {packet : UdpReplyPacket} {replySrc : UdpEndpointKey} {result : Option Nat}

/-- Only the tproxy table changed, and no record of it came or went. -/
theorem UdpInv.tproxy_congr (inv : UdpInv cfg w ⟨none, none, deferred⟩)
    {cache : UdpCache UdpTproxyEntry} (after : TproxyInv cfg cache deferred')
    (fds : ∀ m, (cache.record m).map UdpTproxyEntry.udpSockfd =
      (w.tproxy.record m).map UdpTproxyEntry.udpSockfd) :
    UdpInv cfg { w with tproxy := cache } ⟨none, none, deferred'⟩ := by
  refine { inv with tproxy := after, ledger := inv.ledger.congr ?_ ?_ }
  · refine congrArg (Function.update · _ _) (funext fun owner => ?_)
    cases owner with
    | session a => rfl
    | tproxy m => exact fds m
    | pending => rfl
  · refine live_congr (fun _ => Iff.rfl) (fun _ _ => Iff.rfl) fun m => ?_
    have same := congrArg Option.isSome (fds m)
    rw [Option.isSome_map, Option.isSome_map] at same
    rw [same]

theorem UdpInv.tproxy_create (inv : UdpInv cfg w ⟨none, some fd, deferred⟩)
    (room : deferred.length < udpBatchSize)
    (freshKey : ∀ m ∈ w.tproxy.table, ∀ x, w.tproxy.record m = some x → x.key ≠ replySrc)
    (run : udpTproxyEntryCreate cfg packet w deferred replySrc fd now = (w', deferred', result)) :
    UdpInv cfg w' ⟨none, none, deferred'⟩ ∧ deferred'.length ≤ deferred.length + 1 := by
  unfold udpTproxyEntryCreate at run
  rcases alloced : w.tproxy.toPoolArena.alloc packet.memalign cfg.tproxySize ⟨replySrc, fd, now⟩ with
    ⟨after, call⟩
  simp only [alloced] at run
  have holdsFd : Function.update w.fdOf .pending (some fd) .pending = some fd :=
    Function.update_self ..
  cases got : call.result with
  | none =>
    simp only [got] at run
    cases run
    obtain ⟨holds, record, full⟩ := inv.tproxy.holds.alloc_none alloced got
    have served : AllocsServed [.alloc .tproxy call] := .of_call fun available => by
      have all := full available
      have size := inv.tproxy.size
      simp only [UdpConfig.maxBlocks] at all
      omega
    have closed := (inv.ledger.refused .tproxy got).closed holdsFd
    rw [Function.update_idem] at closed
    refine ⟨{ inv with tproxy := ?_, ledger := ?_, served := ?_ }, Nat.le_succ _⟩
    · exact
        { holds := holds
          live := fun m => by
            simp only [record]
            exact inv.tproxy.live m
          nodup := inv.tproxy.nodup
          keys := by
            simp only [record]
            exact inv.tproxy.keys
          size := inv.tproxy.size }
    · refine closed.congr (congrArg (Function.update · _ _) (fdOf_congr rfl record))
        (live_congr (fun _ => Iff.rfl) (fun _ _ => Iff.rfl) fun m => ?_)
      simp only [record]
    · refine (inv.served.append served).append fun pool c member => ?_
      simp at member
  | some n =>
    simp only [got] at run
    cases run
    obtain ⟨holds, fresh, record⟩ := inv.tproxy.holds.alloc_some alloced got
    have served : AllocsServed [.alloc .tproxy call] := .of_call fun _ => by
      rw [got]
      exact Option.some_ne_none n
    have notLive : ¬ w.Live .tproxy n := by
      simp only [UdpWorld.Live, fresh, Option.isSome_none, Bool.false_eq_true, not_false_eq_true]
    have idle : Function.update w.fdOf .pending (some fd) (.tproxy n) = none := by
      rw [Function.update_of_ne (by simp)]
      simp only [UdpWorld.fdOf, fresh, Option.map_none]
    have moved := (inv.ledger.alloc got notLive fun _ _ => Iff.rfl).transfer holdsFd idle
    rw [Function.update_idem, Function.update_comm (by simp)] at moved
    refine ⟨{ inv with tproxy := ?_, ledger := ?_, served := inv.served.append served }, ?_⟩
    · exact inv.tproxy.add holds fresh record freshKey
    · refine moved.congr (congrArg (Function.update · _ _) ?_) (live_tproxy_some record rfl rfl)
      exact fdOf_tproxy (r := some ⟨replySrc, fd, now⟩) rfl record
    · rw [List.length_append]
      exact Nat.add_le_add_left Option.length_toList_le _

/-- One reply packet adds at most one entry, and defers at most one. -/
theorem UdpInv.tproxy_get_or_create (inv : UdpInv cfg w ⟨none, none, deferred⟩)
    (room : deferred.length < udpBatchSize)
    (run : udpTproxyEntryGetOrCreate cfg packet w deferred replySrc now = (w', deferred', result)) :
    UdpInv cfg w' ⟨none, none, deferred'⟩ ∧ deferred'.length ≤ deferred.length + 1 := by
  unfold udpTproxyEntryGetOrCreate at run
  cases hit : w.tproxy.find replySrc with
  | some n =>
    simp only [hit] at run
    cases atN : w.tproxy.record n with
    | none =>
      simp only [atN] at run
      cases run
      exact ⟨inv, Nat.le_succ _⟩
    | some entry =>
      simp only [atN] at run
      cases run
      refine ⟨inv.tproxy_congr (inv.tproxy.touch ⟨entry.key, entry.udpSockfd, now⟩ atN rfl)
        fun m => ?_, Nat.le_succ _⟩
      simp only [PoolArena.write]
      by_cases same : m = n
      · subst same
        rw [Function.update_self, atN]
        rfl
      · rw [Function.update_of_ne same]
  | none =>
    simp only [hit] at run
    split at run
    · cases run
      exact ⟨inv, Nat.le_succ _⟩
    · rename_i fd _
      split at run
      · refine UdpInv.tproxy_create (w := w.emit [.opened fd]) ?_ room (fun m listed x atM same => ?_) run
        · have opened := inv.ledger.opened (Function.update_self ..) fd.2
          rw [Function.update_idem] at opened
          exact
            { inv with
              ledger := opened
              served := inv.served.append fun pool call member => by simp at member }
        · have differ := List.find?_eq_none.mp hit m listed
          have atM' : w.tproxy.record m = some x := atM
          rw [atM'] at differ
          exact differ (decide_eq_true same)
      · cases run
        have opened := inv.ledger.opened_closed fd.2 (Function.update_self ..)
        exact
          ⟨{ inv with
              ledger := opened
              served := inv.served.append fun pool call member => by simp at member }, Nat.le_succ _⟩

/-- The first of the deferred entries is freed. -/
theorem UdpInv.tproxy_free (inv : UdpInv cfg w ⟨none, none, n :: deferred⟩) :
    UdpInv cfg (udpTproxyEntryFree cfg w n) ⟨none, none, deferred⟩ := by
  have live : w.Live .tproxy n := (inv.tproxy.live n).mpr (List.mem_append_right _ List.mem_cons_self)
  obtain ⟨entry, atN⟩ := Option.isSome_iff_exists.mp live
  unfold udpTproxyEntryFree
  simp only [atN]
  have holds : Function.update w.fdOf .pending none (.tproxy n) = some entry.udpSockfd := by
    rw [Function.update_of_ne (by simp)]
    simp only [UdpWorld.fdOf, atN, Option.map_some]
  have freed := (inv.ledger.closed holds).free live fun _ _ => Iff.rfl
  rw [Function.update_comm (by simp), List.append_assoc] at freed
  refine { inv with tproxy := inv.tproxy.free atN, ledger := ?_, served := ?_ }
  · exact freed.congr (congrArg (Function.update · _ _) (fdOf_tproxy (r := none) rfl rfl))
      (live_tproxy_none rfl rfl rfl)
  · exact inv.served.append fun pool call member => by simp at member

/-- An entry is taken out of the table and freed. -/
theorem UdpInv.tproxy_close (inv : UdpInv cfg w ⟨none, none, deferred⟩) (listed : n ∈ w.tproxy.table) :
    UdpInv cfg (udpTproxyEntryClose cfg w n) ⟨none, none, deferred⟩ := by
  refine UdpInv.tproxy_free (w := { w with tproxy := w.tproxy.del n }) ?_
  refine inv.tproxy_congr (inv.tproxy.move rfl ?_ ?_ ?_) fun _ => rfl
  · have taken := List.perm_cons_erase listed
    exact List.perm_middle.trans (taken.symm.append_right deferred)
  · exact fun m member => List.mem_of_mem_erase member
  · exact List.length_erase_le.trans inv.tproxy.size

end Tproxy
