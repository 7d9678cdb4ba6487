import Tproxy.Udp.Create

namespace Tproxy

/-- The two tables and the registered sessions point at each other: each table
indexes exactly its live nodes, one for each key, and each session has a node
in its own table only. -/
structure NatLinks (sessions : Nat → Option UdpSession)
    (nodes : (nat : UdpNat) → UdpCache (UdpNode nat.Key)) : Prop where
  live : ∀ nat n, ((nodes nat).record n).isSome ↔ n ∈ (nodes nat).table
  nodup : ∀ nat, (nodes nat).table.Nodup
  keys : ∀ nat n m x y, (nodes nat).record n = some x → (nodes nat).record m = some y →
    x.key = y.key → n = m
  node : ∀ nat n x, (nodes nat).record n = some x → ∃ s, sessions x.session = some s ∧
    s.nat = nat ∧ s.node nat = some n ∧ x.key = s.key nat
  session : ∀ a s, sessions a = some s → ∃ n x, s.node s.nat = some n ∧
    (nodes s.nat).record n = some x ∧ x.session = a
  other : ∀ a s nat, sessions a = some s → nat ≠ s.nat → s.node nat = none

variable {sessions : Nat → Option UdpSession}
  {nodes : (nat : UdpNat) → UdpCache (UdpNode nat.Key)} {nat : UdpNat} {n a : Nat}

/-- A table indexes exactly its live nodes, one for each key. -/
structure UdpIndexed {Key : Type} (cache : UdpCache (UdpNode Key)) : Prop where
  live : ∀ n, (cache.record n).isSome ↔ n ∈ cache.table
  nodup : cache.table.Nodup
  keys : ∀ n m x y, cache.record n = some x → cache.record m = some y → x.key = y.key → n = m

section Indexed
variable {Key : Type} {cache cache' : UdpCache (UdpNode Key)} {x : UdpNode Key}

theorem UdpIndexed.add (indexed : UdpIndexed cache) (freshNode : cache.record n = none)
    (freshKey : ∀ m y, cache.record m = some y → y.key ≠ x.key)
    (records : cache'.record = Function.update cache.record n (some x))
    (tables : cache'.table = cache.table ++ [n]) : UdpIndexed cache' where
  live m := by
    rw [records, tables, List.mem_append, List.mem_singleton, ← indexed.live m]
    by_cases new : m = n
    · subst new
      simp only [Function.update_self, Option.isSome_some, or_true]
    · simp only [Function.update_of_ne new, new, or_false]
  nodup := by
    have notListed : n ∉ cache.table := fun listed => by
      have live := (indexed.live n).mpr listed
      rw [freshNode] at live
      cases live
    rw [tables]
    exact List.nodup_append_comm.mp (List.nodup_cons.mpr ⟨notListed, indexed.nodup⟩)
  keys m k y z atM atK same := by
    rw [records] at atM atK
    by_cases newM : m = n <;> by_cases newK : k = n
    · rw [newM, newK]
    · rw [newM, Function.update_self] at atM
      rw [Function.update_of_ne newK] at atK
      cases atM
      exact absurd same.symm (freshKey k z atK)
    · rw [newK, Function.update_self] at atK
      rw [Function.update_of_ne newM] at atM
      cases atK
      exact absurd same (freshKey m y atM)
    · rw [Function.update_of_ne newM] at atM
      rw [Function.update_of_ne newK] at atK
      exact indexed.keys m k y z atM atK same

theorem UdpIndexed.remove (indexed : UdpIndexed cache)
    (records : cache'.record = Function.update cache.record n none)
    (tables : cache'.table = cache.table.erase n) : UdpIndexed cache' where
  live m := by
    rw [records, tables, indexed.nodup.mem_erase_iff, ← indexed.live m]
    by_cases same : m = n
    · subst same
      simp only [Function.update_self, Option.isSome_none, Bool.false_eq_true, ne_eq, not_true,
        false_and]
    · simp only [Function.update_of_ne same, ne_eq, same, not_false_eq_true, true_and]
  nodup := by
    rw [tables]
    exact indexed.nodup.erase n
  keys m k y z atM atK same := by
    have old {m : Nat} {y : UdpNode Key} (atM : cache'.record m = some y) : cache.record m = some y := by
      rw [records] at atM
      by_cases gone : m = n
      · rw [gone, Function.update_self] at atM
        cases atM
      · rwa [Function.update_of_ne gone] at atM
    exact indexed.keys m k y z (old atM) (old atK) same

end Indexed

theorem NatLinks.indexed (links : NatLinks sessions nodes) (nat : UdpNat) : UdpIndexed (nodes nat) :=
  ⟨links.live nat, links.nodup nat, links.keys nat⟩

/-- One table changes, and stays an index. -/
theorem NatLinks.indexed_update (links : NatLinks sessions nodes) {cache : UdpCache (UdpNode nat.Key)}
    (indexed : UdpIndexed cache) (side : UdpNat) : UdpIndexed (Function.update nodes nat cache side) :=
  (Function.forall_update_iff nodes fun _ cache => UdpIndexed cache).mpr
    ⟨indexed, fun side _ => links.indexed side⟩ side

theorem NatLinks.empty (blank : ∀ a, sessions a = none) (noTable : ∀ nat, (nodes nat).table = [])
    (noRecord : ∀ nat n, (nodes nat).record n = none) : NatLinks sessions nodes where
  live nat n := by simp [noTable, noRecord]
  nodup nat := by simp [noTable]
  keys nat n m x y atN := by simp [noRecord] at atN
  node nat n x atN := by simp [noRecord] at atN
  session a s atA := by simp [blank] at atA
  other a s nat atA := by simp [blank] at atA

/-- Only the records and the tables count, not the pools. -/
theorem NatLinks.congr (links : NatLinks sessions nodes)
    {nodes' : (nat : UdpNat) → UdpCache (UdpNode nat.Key)}
    (records : ∀ nat, (nodes' nat).record = (nodes nat).record)
    (tables : ∀ nat, (nodes' nat).table = (nodes nat).table) : NatLinks sessions nodes' where
  live nat n := by rw [records, tables]; exact links.live nat n
  nodup nat := by rw [tables]; exact links.nodup nat
  keys nat n m x y := by rw [records]; exact links.keys nat n m x y
  node nat n x := by rw [records]; exact links.node nat n x
  session a s atA := by
    obtain ⟨n, x, link, atN, back⟩ := links.session a s atA
    exact ⟨n, x, link, by rw [records, atN], back⟩
  other := links.other

theorem tables_update {cache : UdpCache (UdpNode nat.Key)} (same : cache.table = (nodes nat).table)
    (side : UdpNat) : (Function.update nodes nat cache side).table = (nodes side).table := by
  by_cases here : side = nat
  · subst here
    rw [Function.update_self, same]
  · rw [Function.update_of_ne here]

theorem records_update {cache : UdpCache (UdpNode nat.Key)}
    (same : cache.record = (nodes nat).record) (side : UdpNat) :
    (Function.update nodes nat cache side).record = (nodes side).record := by
  by_cases here : side = nat
  · subst here
    rw [Function.update_self, same]
  · rw [Function.update_of_ne here]

/-- One record of one table changes. -/
theorem record_update_apart {cache : UdpCache (UdpNode nat.Key)} {value : Option (UdpNode nat.Key)}
    (records : cache.record = Function.update (nodes nat).record n value) {side : UdpNat} {m : Nat}
    (apart : ¬(side = nat ∧ m = n)) :
    (Function.update nodes nat cache side).record m = (nodes side).record m := by
  by_cases here : side = nat
  · subst here
    rw [Function.update_self, records, Function.update_of_ne fun same => apart ⟨rfl, same⟩]
  · rw [Function.update_of_ne here]

/-- The node of a session is the only one that refers to it. -/
theorem NatLinks.node_unique (links : NatLinks sessions nodes) {side : UdpNat} {m : Nat}
    {x : UdpNode nat.Key} {y : UdpNode side.Key} (atN : (nodes nat).record n = some x)
    (atM : (nodes side).record m = some y) (same : x.session = y.session) : nat = side ∧ n = m := by
  obtain ⟨s, atX, own, link, _⟩ := links.node nat n x atN
  obtain ⟨t, atY, own', link', _⟩ := links.node side m y atM
  rw [same, atY] at atX
  cases atX
  refine ⟨own.symm.trans own', ?_⟩
  rw [← own, own'] at link
  exact Option.some.inj (link.symm.trans link')

/-- The session at `a` has no other node than its own. -/
theorem NatLinks.link_eq (links : NatLinks sessions nodes) {s : UdpSession}
    (atA : sessions a = some s) (side : UdpNat) (link : s.node side = some n) :
    s.nat = side ∧ ∃ x, (nodes side).record n = some x ∧ x.session = a := by
  by_cases own : side = s.nat
  · subst own
    obtain ⟨m, x, link', atM, back⟩ := links.session a s atA
    cases link'.symm.trans link
    exact ⟨rfl, x, atM, back⟩
  · rw [links.other a s side atA own] at link
    cases link

/-- A new session with a new node for a key that no node has. -/
theorem NatLinks.register (links : NatLinks sessions nodes) {s : UdpSession} (now : EvTstamp)
    (freshSession : sessions a = none) (freshNode : (nodes nat).record n = none)
    (own : s.nat = nat) (blank : ∀ side, s.node side = none)
    (freshKey : ∀ m x, (nodes nat).record m = some x → x.key ≠ s.key nat)
    (cache : UdpCache (UdpNode nat.Key))
    (records : cache.record = Function.update (nodes nat).record n (some ⟨s.key nat, a, now⟩))
    (tables : cache.table = (nodes nat).table ++ [n]) :
    NatLinks
      (Function.update sessions a (some { s with node := Function.update s.node nat (some n) }))
      (Function.update nodes nat cache) := by
  have atNew : cache.record n = some ⟨s.key nat, a, now⟩ := by rw [records, Function.update_self]
  have indexed := links.indexed_update ((links.indexed nat).add freshNode freshKey records tables)
  have keepSession : ∀ {b t}, sessions b = some t → b ≠ a := fun atB same => by
    rw [same, freshSession] at atB
    cases atB
  refine ⟨fun side => (indexed side).live, fun side => (indexed side).nodup,
    fun side => (indexed side).keys, fun side m x atM => ?node, fun b t atB => ?session,
    fun b t side atB apart => ?other⟩
  case node =>
    by_cases new : side = nat ∧ m = n
    · obtain ⟨rfl, rfl⟩ := new
      rw [Function.update_self, atNew] at atM
      cases atM
      exact ⟨_, Function.update_self .., own, Function.update_self .., by cases side <;> rfl⟩
    · rw [record_update_apart records new] at atM
      obtain ⟨t, atT, rest⟩ := links.node side m x atM
      exact ⟨t, by rw [Function.update_of_ne (keepSession atT), atT], rest⟩
  case session =>
    by_cases new : b = a
    · subst new
      rw [Function.update_self] at atB
      cases atB
      have own' : UdpSession.nat { s with node := Function.update s.node nat (some n) } = nat := own
      rw [own']
      refine ⟨n, ⟨s.key nat, b, now⟩, Function.update_self .., ?_, rfl⟩
      rw [Function.update_self, atNew]
    · rw [Function.update_of_ne new] at atB
      obtain ⟨m, x, link, atM, back⟩ := links.session b t atB
      have old : ¬(t.nat = nat ∧ m = n) := by
        rintro ⟨rfl, rfl⟩
        rw [freshNode] at atM
        cases atM
      exact ⟨m, x, link, (record_update_apart records old).trans atM, back⟩
  case other =>
    by_cases new : b = a
    · subst new
      rw [Function.update_self] at atB
      cases atB
      have apart' : side ≠ nat := fun same => apart (same.trans own.symm)
      exact (Function.update_of_ne apart' ..).trans (blank side)
    · rw [Function.update_of_ne new] at atB
      exact links.other b t side atB apart

/-- A session goes away together with its node. -/
theorem NatLinks.close (links : NatLinks sessions nodes) {x : UdpNode nat.Key}
    (atN : (nodes nat).record n = some x) {cache : UdpCache (UdpNode nat.Key)}
    (records : cache.record = Function.update (nodes nat).record n none)
    (tables : cache.table = (nodes nat).table.erase n) :
    NatLinks (Function.update sessions x.session none) (Function.update nodes nat cache) := by
  -- a node that is left refers to a session that is left
  have keepSession : ∀ {side : UdpNat} {m : Nat} {y : UdpNode side.Key},
      (nodes side).record m = some y → ¬(side = nat ∧ m = n) →
      Function.update sessions x.session none y.session = sessions y.session := by
    intro side m y atM apart
    exact Function.update_of_ne (fun same => apart (links.node_unique atM atN same)) ..
  have indexed := links.indexed_update ((links.indexed nat).remove records tables)
  refine ⟨fun side => (indexed side).live, fun side => (indexed side).nodup,
    fun side => (indexed side).keys, fun side m y atM => ?node, fun b t atB => ?session,
    fun b t side atB apart => ?other⟩
  case node =>
    by_cases closed : side = nat ∧ m = n
    · obtain ⟨rfl, rfl⟩ := closed
      rw [Function.update_self, records, Function.update_self] at atM
      cases atM
    · rw [record_update_apart records closed] at atM
      obtain ⟨t, atT, rest⟩ := links.node side m y atM
      exact ⟨t, (keepSession atM closed).trans atT, rest⟩
  case session =>
    by_cases same : b = x.session
    · rw [same, Function.update_self] at atB
      cases atB
    · rw [Function.update_of_ne same] at atB
      obtain ⟨m, y, link, atM, back⟩ := links.session b t atB
      have left : ¬(t.nat = nat ∧ m = n) := by
        rintro ⟨rfl, rfl⟩
        rw [atN] at atM
        cases atM
        exact same back.symm
      exact ⟨m, y, link, (record_update_apart records left).trans atM, back⟩
  case other =>
    by_cases same : b = x.session
    · rw [same, Function.update_self] at atB
      cases atB
    · rw [Function.update_of_ne same] at atB
      exact links.other b t side atB apart

/-- A node may be written as long as its key and its session stay. -/
theorem NatLinks.touch (links : NatLinks sessions nodes) {x y : UdpNode nat.Key}
    (atN : (nodes nat).record n = some x) (sameKey : y.key = x.key)
    (sameSession : y.session = x.session) {cache : UdpCache (UdpNode nat.Key)}
    (records : cache.record = Function.update (nodes nat).record n (some y))
    (tables : cache.table = (nodes nat).table) :
    NatLinks sessions (Function.update nodes nat cache) := by
  -- every node keeps its key and its session
  have back : ∀ {side m z}, (Function.update nodes nat cache side).record m = some z →
      ∃ z', (nodes side).record m = some z' ∧ z.key = z'.key ∧ z.session = z'.session := by
    intro side m z atM
    by_cases here : side = nat ∧ m = n
    · obtain ⟨rfl, rfl⟩ := here
      rw [Function.update_self, records, Function.update_self] at atM
      cases atM
      exact ⟨x, atN, sameKey, sameSession⟩
    · rw [record_update_apart records here] at atM
      exact ⟨z, atM, rfl, rfl⟩
  have forth : ∀ {side m z'}, (nodes side).record m = some z' →
      ∃ z, (Function.update nodes nat cache side).record m = some z ∧ z.session = z'.session := by
    intro side m z' atM
    by_cases here : side = nat ∧ m = n
    · obtain ⟨rfl, rfl⟩ := here
      rw [atN] at atM
      cases atM
      exact ⟨y, by rw [Function.update_self, records, Function.update_self], sameSession⟩
    · exact ⟨z', (record_update_apart records here).trans atM, rfl⟩
  have sameTables := tables_update tables
  refine ⟨fun side m => ?live, fun side => ?nodup, fun side m k z z' atM atK same => ?keys,
    fun side m z atM => ?node, fun b t atB => ?session, links.other⟩
  case live =>
    rw [sameTables, ← links.live side m, Option.isSome_iff_exists, Option.isSome_iff_exists]
    constructor
    · rintro ⟨z, atM⟩
      obtain ⟨z', old, _⟩ := back atM
      exact ⟨z', old⟩
    · rintro ⟨z', old⟩
      obtain ⟨z, atM, _⟩ := forth old
      exact ⟨z, atM⟩
  case nodup =>
    rw [sameTables]
    exact links.nodup side
  case keys =>
    obtain ⟨u, oldM, keyM, _⟩ := back atM
    obtain ⟨v, oldK, keyK, _⟩ := back atK
    exact links.keys side m k u v oldM oldK (keyM.symm.trans (same.trans keyK))
  case node =>
    obtain ⟨u, old, key, session⟩ := back atM
    obtain ⟨t, atT, own, link, keyT⟩ := links.node side m u old
    exact ⟨t, by rw [session, atT], own, link, key.trans keyT⟩
  case session =>
    obtain ⟨m, z', link, old, session⟩ := links.session b t atB
    obtain ⟨z, atM, same⟩ := forth old
    exact ⟨m, z, link, atM, same.trans session⟩

end Tproxy
