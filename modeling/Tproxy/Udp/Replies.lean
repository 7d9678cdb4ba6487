import Tproxy.Udp.Serve

namespace Tproxy

variable {cfg : UdpConfig} {w w' : UdpWorld} {n fd : Nat} {deferred deferred' : List Nat}
  {now : EvTstamp} {cache cache' : UdpCache UdpTproxyEntry} {entry : UdpTproxyEntry}

/-- Entries may move from the table to the deferred ones, or stay. -/
theorem TproxyInv.move (inv : TproxyInv cfg cache deferred)
    (arena : cache'.toPoolArena = cache.toPoolArena)
    (moved : (cache'.table ++ deferred').Perm (cache.table ++ deferred))
    (inside : ∀ m ∈ cache'.table, m ∈ cache.table) (size : cache'.table.length ≤ cfg.tproxyMaxsize) :
    TproxyInv cfg cache' deferred' where
  holds := by
    have same := moved.length_eq
    rw [List.length_append, List.length_append] at same
    rw [same, arena]
    exact inv.holds
  live m := by rw [arena, inv.live, moved.mem_iff]
  nodup := moved.nodup_iff.mpr inv.nodup
  keys m inM k inK := by
    rw [arena]
    exact inv.keys m (inside m inM) k (inside k inK)
  size := size

/-- A new entry for a source that the table does not have, with an eviction to
the deferred entries if the table is full. -/
theorem TproxyInv.add (inv : TproxyInv cfg cache deferred) {after : PoolArena UdpTproxyEntry}
    (holds : after.Holds cfg.tproxySize (cfg.maxBlocks .tproxy)
      (cache.table.length + deferred.length + 1))
    (fresh : cache.record n = none)
    (record : after.record = Function.update cache.record n (some entry))
    (freshKey : ∀ m ∈ cache.table, ∀ x, cache.record m = some x → x.key ≠ entry.key) :
    TproxyInv cfg (UdpCache.add { cache with toPoolArena := after } cfg.tproxyMaxsize n).1
      (deferred ++ (UdpCache.add { cache with toPoolArena := after } cfg.tproxyMaxsize n).2.toList) := by
  have absent : n ∉ cache.table ++ deferred := fun listed => by
    have live := (inv.live n).mpr listed
    rw [fresh] at live
    cases live
  have notListed : n ∉ cache.table := fun listed => absent (List.mem_append_left _ listed)
  unfold UdpCache.add
  simp only
  have perm := lruAdd_perm (fun m => ((after.record m).map LruEntry.lastActive).getD 0)
    cfg.tproxyMaxsize cache.table n
  have size := lruAdd_length (fun m => ((after.record m).map LruEntry.lastActive).getD 0)
    cfg.tproxyMaxsize_pos notListed inv.size
  generalize lruAdd (fun m => ((after.record m).map LruEntry.lastActive).getD 0)
    cfg.tproxyMaxsize cache.table n = added at perm size ⊢
  have all : (added.1 ++ (deferred ++ added.2.toList)).Perm (n :: (cache.table ++ deferred)) := by
    have swapped : (added.1 ++ (deferred ++ added.2.toList)).Perm
        ((added.1 ++ added.2.toList) ++ deferred) := by
      rw [List.append_assoc]
      exact List.perm_append_comm.append_left _
    exact swapped.trans (perm.append_right deferred)
  have inside : ∀ m ∈ added.1, m = n ∨ m ∈ cache.table := fun m member =>
    List.mem_cons.mp (perm.mem_iff.mp (List.mem_append_left _ member))
  refine { holds := ?_, live := fun m => ?_, nodup := ?_, keys := ?_, size := size }
  · have length := all.length_eq
    simp only [List.length_append, List.length_cons] at length ⊢
    rw [length]
    exact holds
  · rw [all.mem_iff, List.mem_cons, record, isSome_update_some, inv.live m]
    exact or_comm
  · exact all.nodup_iff.mpr (List.nodup_cons.mpr ⟨absent, inv.nodup⟩)
  · intro m inM k inK x y atM atK same
    rw [record] at atM atK
    rcases inside m inM with newM | oldM <;> rcases inside k inK with newK | oldK
    · rw [newM, newK]
    · have differ : k ≠ n := fun equal => notListed (equal ▸ oldK)
      rw [newM, Function.update_self] at atM
      rw [Function.update_of_ne differ] at atK
      cases atM
      exact absurd same.symm (freshKey k oldK y atK)
    · have differ : m ≠ n := fun equal => notListed (equal ▸ oldM)
      rw [newK, Function.update_self] at atK
      rw [Function.update_of_ne differ] at atM
      cases atK
      exact absurd same (freshKey m oldM x atM)
    · have differM : m ≠ n := fun equal => notListed (equal ▸ oldM)
      have differK : k ≠ n := fun equal => notListed (equal ▸ oldK)
      rw [Function.update_of_ne differM] at atM
      rw [Function.update_of_ne differK] at atK
      exact inv.keys m oldM k oldK x y atM atK same

theorem TproxyInv.touch (inv : TproxyInv cfg cache deferred) {x : UdpTproxyEntry}
    (entry : UdpTproxyEntry) (atN : cache.record n = some x) (sameKey : entry.key = x.key) :
    TproxyInv cfg { cache with toPoolArena := cache.write n entry } deferred := by
  have back : ∀ {m z}, (cache.write n entry).record m = some z →
      ∃ z', cache.record m = some z' ∧ z.key = z'.key := by
    intro m z atM
    simp only [PoolArena.write] at atM
    by_cases same : m = n
    · subst same
      rw [Function.update_self] at atM
      cases atM
      exact ⟨x, atN, sameKey⟩
    · rw [Function.update_of_ne same] at atM
      exact ⟨z, atM, rfl⟩
  refine
    { holds := inv.holds.write entry atN
      live := fun m => ?_
      nodup := inv.nodup
      keys := fun m inM k inK y z atM atK same => ?_
      size := inv.size }
  · rw [← inv.live m]
    simp only [PoolArena.write, isSome_update_some, or_iff_left_iff_imp]
    rintro rfl
    rw [atN]
    rfl
  · obtain ⟨y', oldM, keyM⟩ := back atM
    obtain ⟨z', oldK, keyK⟩ := back atK
    exact inv.keys m inM k inK y' z' oldM oldK (keyM.symm.trans (same.trans keyK))

/-- A deferred entry is freed. -/
theorem TproxyInv.free (inv : TproxyInv cfg cache (n :: deferred)) (atN : cache.record n = some entry) :
    TproxyInv cfg { cache with toPoolArena := cache.free n cfg.tproxySize } deferred := by
  have shuffled : (cache.table ++ n :: deferred).Perm (n :: (cache.table ++ deferred)) :=
    List.perm_middle
  have apart := List.nodup_cons.mp (shuffled.nodup_iff.mp inv.nodup)
  have outside : ∀ m ∈ cache.table, m ≠ n := fun m member same =>
    apart.1 (List.mem_append_left _ (same ▸ member))
  refine
    { holds := PoolArena.Holds.free ?_ atN
      live := fun m => ?_
      nodup := apart.2
      keys := fun m inM k inK x y atM atK same => ?_
      size := inv.size }
  · have before := inv.holds
    rw [List.length_cons, ← Nat.add_assoc] at before
    exact before
  · simp only [PoolArena.free, isSome_update_none, inv.live m, shuffled.mem_iff, List.mem_cons]
    constructor
    · rintro ⟨here | rest, differ⟩
      · exact absurd here differ
      · exact rest
    · intro rest
      exact ⟨Or.inr rest, fun same => apart.1 (same ▸ rest)⟩
  · simp only [PoolArena.free, Function.update_of_ne (outside m inM)] at atM
    simp only [PoolArena.free, Function.update_of_ne (outside k inK)] at atK
    exact inv.keys m inM k inK x y atM atK same

end Tproxy
