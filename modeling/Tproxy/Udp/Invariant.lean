import Tproxy.Udp.Ledger
import Tproxy.Udp.Links
import Tproxy.Udp.Loop

namespace Tproxy

/-- What a running callback holds beside the tables: the block of a session
that has no node yet, a socket, and the tproxy entries it will free. -/
structure UdpHidden where
  session : Option Nat
  fd : Option Nat
  deferred : List Nat

/-- Between two callbacks nothing is hidden. -/
def UdpHidden.idle : UdpHidden := ⟨none, none, []⟩

/-- The sessions that have been registered. -/
def UdpHidden.registered (hidden : UdpHidden) (record : Nat → Option UdpSession) :
    Nat → Option UdpSession :=
  match hidden.session with
  | none => record
  | some a => Function.update record a none

/-- The number of indexed sessions. -/
def tableCount (nodes : (nat : UdpNat) → UdpCache (UdpNode nat.Key)) : Nat :=
  (nodes .fullcone).table.length + (nodes .symmetric).table.length

/-- The tproxy table holds the live entries that are not deferred, one for each
source endpoint. -/
structure TproxyInv (cfg : UdpConfig) (cache : UdpCache UdpTproxyEntry) (deferred : List Nat) :
    Prop where
  holds : cache.toPoolArena.Holds cfg.tproxySize (cfg.maxBlocks .tproxy)
    (cache.table.length + deferred.length)
  live : ∀ n, (cache.record n).isSome ↔ n ∈ cache.table ++ deferred
  nodup : (cache.table ++ deferred).Nodup
  keys : ∀ n ∈ cache.table, ∀ m ∈ cache.table, ∀ x y, cache.record n = some x →
    cache.record m = some y → x.key = y.key → n = m
  size : cache.table.length ≤ cfg.tproxyMaxsize

/-- With memory in the system, no allocation was refused. -/
def AllocsServed (trace : List UdpEffect) : Prop :=
  ∀ pool call, UdpEffect.alloc pool call ∈ trace → call.MemoryAvailable → call.result ≠ none

/-- The part of the invariant that also holds between an insertion and the
eviction that it causes. -/
structure UdpCore (cfg : UdpConfig) (w : UdpWorld) (hidden : UdpHidden) : Prop where
  links : NatLinks (hidden.registered w.sessions.record) w.nodes
  sessions : w.sessions.Holds cfg.sessionSize (cfg.maxBlocks .session)
    (tableCount w.nodes + hidden.session.toList.length)
  nodes : ∀ nat, (w.nodes nat).toPoolArena.Holds (cfg.nodeSize nat) (cfg.maxBlocks (.node nat))
    (w.nodes nat).table.length
  tproxy : TproxyInv cfg w.tproxy hidden.deferred
  ledger : Ledger w.trace (Function.update w.fdOf .pending hidden.fd) w.Live
  served : AllocsServed w.trace

/-- The invariant of a UDP worker. -/
structure UdpInv (cfg : UdpConfig) (w : UdpWorld) (hidden : UdpHidden) : Prop
    extends UdpCore cfg w hidden where
  sizes : ∀ nat, (w.nodes nat).table.length ≤ cfg.maxsize nat
  off : cfg.fakednsEnabled = false → (w.nodes .symmetric).table = []

variable {cfg : UdpConfig} {w : UdpWorld} {hidden : UdpHidden} {nat : UdpNat} {a n fd : Nat}

theorem tableCount_update (nodes : (nat : UdpNat) → UdpCache (UdpNode nat.Key)) (nat : UdpNat)
    (cache : UdpCache (UdpNode nat.Key)) :
    tableCount (Function.update nodes nat cache) + (nodes nat).table.length =
      tableCount nodes + cache.table.length := by
  unfold tableCount
  cases nat with
  | fullcone =>
    rw [Function.update_self, Function.update_of_ne (by decide)]
    omega
  | symmetric =>
    rw [Function.update_self, Function.update_of_ne (by decide)]
    omega

theorem AllocsServed.append {trace effects : List UdpEffect} (before : AllocsServed trace)
    (after : AllocsServed effects) : AllocsServed (trace ++ effects) := fun pool call member =>
  (List.mem_append.mp member).elim (before pool call) (after pool call)

theorem AllocsServed.of_call {pool : UdpPool} {call : PoolCall}
    (served : call.MemoryAvailable → call.result ≠ none) : AllocsServed [.alloc pool call] := by
  intro p c member
  obtain ⟨rfl, rfl⟩ := UdpEffect.alloc.inj (List.mem_singleton.mp member)
  exact served

/-- There is a spare session block while nothing is hidden. -/
theorem UdpInv.session_room (inv : UdpInv cfg w hidden) :
    tableCount w.nodes < cfg.maxBlocks .session := by
  have full := inv.sizes .fullcone
  have symm := inv.sizes .symmetric
  simp only [tableCount, UdpConfig.maxBlocks]
  cases on : cfg.fakednsEnabled with
  | true =>
    rw [if_pos rfl]
    omega
  | false =>
    rw [inv.off on, if_neg Bool.false_ne_true, List.length_nil]
    omega

/-- There is a spare node block for each table in use. -/
theorem UdpInv.node_room (inv : UdpInv cfg w hidden)
    (usable : nat = .symmetric → cfg.fakednsEnabled = true) :
    (w.nodes nat).table.length < cfg.maxBlocks (.node nat) := by
  have size := inv.sizes nat
  cases nat with
  | fullcone => exact Nat.lt_succ_of_le size
  | symmetric =>
    simp only [UdpConfig.maxBlocks]
    rw [usable rfl, if_pos rfl]
    exact Nat.lt_succ_of_le size

theorem UdpConfig.maxsize_pos (cfg : UdpConfig) (nat : UdpNat) : 0 < cfg.maxsize nat := by
  have positive := cfg.cacheSize_pos
  cases nat with
  | fullcone => exact positive
  | symmetric =>
    simp only [UdpConfig.maxsize]
    split <;> omega

theorem UdpConfig.tproxyMaxsize_pos (cfg : UdpConfig) : 0 < cfg.tproxyMaxsize := by
  have positive := cfg.cacheSize_pos
  unfold UdpConfig.tproxyMaxsize
  split <;> omega

end Tproxy
