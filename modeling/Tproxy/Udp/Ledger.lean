import Tproxy.Lib.Ownership
import Tproxy.Udp.Reply

namespace Tproxy

/-- The blocks of `pool` that are handed out after an effect. -/
def UdpEffect.blocks (pool : UdpPool) (blocks : List Nat) : UdpEffect → List Nat
  | .alloc p call => if p = pool then call.result.toList ++ blocks else blocks
  | .free p block => if p = pool then blocks.erase block else blocks
  | _ => blocks

/-- The blocks of `pool` that are handed out after a list of effects. -/
def heldBlocks (pool : UdpPool) (trace : List UdpEffect) : List Nat :=
  trace.foldl (UdpEffect.blocks pool) []

/-- An effect after `trace` finds its resource in the right state: only open
sockets are used and closed, only held blocks are freed, and what is opened or
handed out was not in use. -/
def UdpEffect.Fine (trace : List UdpEffect) : UdpEffect → Prop
  | .opened fd => fd ∉ openFds trace
  | .closed fd => fd ∈ openFds trace
  | .alloc pool call => ∀ block ∈ call.result, block ∉ heldBlocks pool trace
  | .free pool block => block ∈ heldBlocks pool trace
  | .send fd _ => fd ∈ openFds trace
  | .sendmmsg fd _ => fd ∈ openFds trace

/-- Every effect of the list is fine after those before it. -/
inductive Audited : List UdpEffect → Prop
  | nil : Audited []
  | snoc {trace effect} : Audited trace → effect.Fine trace → Audited (trace ++ [effect])

/-- Who may hold a descriptor; `pending` is the function that just opened it. -/
inductive UdpFdOwner
  | session (a : Nat)
  | tproxy (n : Nat)
  | pending
deriving DecidableEq

/-- All effects of `trace` were fine, the open descriptors are those that the
owners hold, and the blocks handed out are the live ones. -/
structure Ledger (trace : List UdpEffect) (fdOf : UdpFdOwner → Option Nat)
    (live : UdpPool → Nat → Prop) : Prop where
  audited : Audited trace
  fds : Owned (openFds trace) fdOf
  nodup : ∀ pool, (heldBlocks pool trace).Nodup
  blocks : ∀ pool a, a ∈ heldBlocks pool trace ↔ live pool a

/-- The descriptor in a session or in a tproxy entry. -/
def UdpWorld.fdOf (w : UdpWorld) : UdpFdOwner → Option Nat
  | .session a => (w.sessions.record a).map UdpSession.serverFd
  | .tproxy n => (w.tproxy.record n).map UdpTproxyEntry.udpSockfd
  | .pending => none

def UdpWorld.Live (w : UdpWorld) : UdpPool → Nat → Prop
  | .session, a => (w.sessions.record a).isSome
  | .node nat, n => ((w.nodes nat).record n).isSome
  | .tproxy, n => (w.tproxy.record n).isSome

variable {trace : List UdpEffect} {fdOf : UdpFdOwner → Option Nat} {live live' : UdpPool → Nat → Prop}
  {pool : UdpPool} {owner : UdpFdOwner} {fd a : Nat} {call : PoolCall}

@[simp] theorem openFds_snoc (trace : List UdpEffect) (effect : UdpEffect) :
    openFds (trace ++ [effect]) = effect.fds (openFds trace) := by
  simp only [openFds, List.foldl_append, List.foldl_cons, List.foldl_nil]

@[simp] theorem heldBlocks_snoc (pool : UdpPool) (trace : List UdpEffect) (effect : UdpEffect) :
    heldBlocks pool (trace ++ [effect]) = effect.blocks pool (heldBlocks pool trace) := by
  simp only [heldBlocks, List.foldl_append, List.foldl_cons, List.foldl_nil]

theorem Ledger.empty : Ledger [] (fun _ => none) fun _ _ => False :=
  ⟨.nil, Owned.empty, fun _ => List.nodup_nil, fun _ _ => by simp [heldBlocks]⟩

/-- What is live may be said in other words. -/
theorem Ledger.congr (ledger : Ledger trace fdOf live) {fdOf' : UdpFdOwner → Option Nat}
    (sameFds : fdOf' = fdOf) (sameLive : ∀ pool a, live' pool a ↔ live pool a) :
    Ledger trace fdOf' live' :=
  { ledger with
    fds := sameFds ▸ ledger.fds
    blocks := fun pool a => (ledger.blocks pool a).trans (sameLive pool a).symm }

/-- An effect that leaves the blocks alone. -/
theorem Ledger.of_fds {effect : UdpEffect} {fdOf' : UdpFdOwner → Option Nat}
    (ledger : Ledger trace fdOf live) (fine : effect.Fine trace)
    (sameBlocks : ∀ pool blocks, effect.blocks pool blocks = blocks)
    (fds : Owned (effect.fds (openFds trace)) fdOf') : Ledger (trace ++ [effect]) fdOf' live where
  audited := .snoc ledger.audited fine
  fds := by
    rw [openFds_snoc]
    exact fds
  nodup pool := by
    rw [heldBlocks_snoc, sameBlocks]
    exact ledger.nodup pool
  blocks pool a := by
    rw [heldBlocks_snoc, sameBlocks]
    exact ledger.blocks pool a

/-- An effect on the blocks of one pool. -/
theorem Ledger.of_blocks {effect : UdpEffect} (ledger : Ledger trace fdOf live) (pool : UdpPool)
    (fine : effect.Fine trace) (sameFds : ∀ fds, effect.fds fds = fds)
    (sameBlocks : ∀ p, p ≠ pool → ∀ blocks, effect.blocks p blocks = blocks)
    (sameLive : ∀ p, p ≠ pool → ∀ b, live' p b ↔ live p b)
    (nodup : (effect.blocks pool (heldBlocks pool trace)).Nodup)
    (blocks : ∀ b, b ∈ effect.blocks pool (heldBlocks pool trace) ↔ live' pool b) :
    Ledger (trace ++ [effect]) fdOf live' where
  audited := .snoc ledger.audited fine
  fds := by
    rw [openFds_snoc, sameFds]
    exact ledger.fds
  nodup p := by
    rw [heldBlocks_snoc]
    by_cases same : p = pool
    · exact same ▸ nodup
    · rw [sameBlocks p same]
      exact ledger.nodup p
  blocks p b := by
    rw [heldBlocks_snoc]
    by_cases same : p = pool
    · exact same ▸ blocks b
    · rw [sameBlocks p same, sameLive p same]
      exact ledger.blocks p b

theorem Ledger.opened (ledger : Ledger trace fdOf live) (idle : fdOf owner = none)
    (fresh : fd ∉ openFds trace) :
    Ledger (trace ++ [.opened fd]) (Function.update fdOf owner (some fd)) live :=
  ledger.of_fds fresh (fun _ _ => rfl) (ledger.fds.acquire idle fresh)

theorem Ledger.closed (ledger : Ledger trace fdOf live) (holds : fdOf owner = some fd) :
    Ledger (trace ++ [.closed fd]) (Function.update fdOf owner none) live :=
  ledger.of_fds (ledger.fds.mem holds) (fun _ _ => rfl) (ledger.fds.release holds)

/-- A socket passes from one owner to another. -/
theorem Ledger.transfer (ledger : Ledger trace fdOf live) {heir : UdpFdOwner}
    (holds : fdOf owner = some fd) (idle : fdOf heir = none) :
    Ledger trace (Function.update (Function.update fdOf owner none) heir (some fd)) live :=
  { ledger with fds := ledger.fds.transfer holds idle }

/-- A socket that is opened and closed again at once. -/
theorem Ledger.opened_closed (ledger : Ledger trace fdOf live) (fresh : fd ∉ openFds trace)
    (idle : fdOf .pending = none) : Ledger (trace ++ [.opened fd, .closed fd]) fdOf live := by
  have closed := (ledger.opened idle fresh).closed (Function.update_self ..)
  rw [Function.update_idem, ← idle, Function.update_eq_self] at closed
  rw [List.append_assoc] at closed
  exact closed

/-- An effect that changes neither what is open nor what is handed out. -/
theorem Ledger.use {effect : UdpEffect} (ledger : Ledger trace fdOf live)
    (fine : effect.Fine trace) (sameFds : ∀ fds, effect.fds fds = fds)
    (sameBlocks : ∀ pool blocks, effect.blocks pool blocks = blocks) :
    Ledger (trace ++ [effect]) fdOf live :=
  ledger.of_fds fine sameBlocks (by rw [sameFds]; exact ledger.fds)

theorem Ledger.refused (ledger : Ledger trace fdOf live) (pool : UdpPool) (failed : call.result = none) :
    Ledger (trace ++ [.alloc pool call]) fdOf live := by
  refine ledger.use (fun block got => ?_) (fun _ => rfl) fun p blocks => ?_
  · rw [failed] at got
    cases got
  · simp only [UdpEffect.blocks, failed, Option.toList_none, List.nil_append, ite_self]

theorem Ledger.alloc (ledger : Ledger trace fdOf live) (got : call.result = some a)
    (fresh : ¬ live pool a) (grown : ∀ p b, live' p b ↔ live p b ∨ p = pool ∧ b = a) :
    Ledger (trace ++ [.alloc pool call]) fdOf live' := by
  have free : a ∉ heldBlocks pool trace := fun held => fresh ((ledger.blocks pool a).mp held)
  have taken : UdpEffect.blocks pool (heldBlocks pool trace) (.alloc pool call) =
      a :: heldBlocks pool trace := by
    simp only [UdpEffect.blocks, got, if_true, Option.toList_some, List.singleton_append]
  refine ledger.of_blocks pool (fun block member => ?_) (fun _ => rfl) (fun p apart blocks => ?_)
    (fun p apart b => ?_) ?_ fun b => ?_
  · obtain rfl := Option.some.inj (got.symm.trans member)
    exact free
  · exact if_neg apart.symm
  · simp only [grown, apart, false_and, or_false]
  · rw [taken]
    exact List.nodup_cons.mpr ⟨free, ledger.nodup pool⟩
  · rw [taken, grown, List.mem_cons, ledger.blocks pool b]
    simp only [true_and, or_comm]

theorem Ledger.free (ledger : Ledger trace fdOf live) (held : live pool a)
    (shrunk : ∀ p b, live' p b ↔ live p b ∧ ¬ (p = pool ∧ b = a)) :
    Ledger (trace ++ [.free pool a]) fdOf live' := by
  have rest : UdpEffect.blocks pool (heldBlocks pool trace) (.free pool a) =
      (heldBlocks pool trace).erase a := if_pos rfl
  refine ledger.of_blocks pool ((ledger.blocks pool a).mpr held) (fun _ => rfl)
    (fun p apart blocks => ?_) (fun p apart b => ?_) ?_ fun b => ?_
  · exact if_neg apart.symm
  · simp only [shrunk, apart, false_and, not_false_eq_true, and_true]
  · rw [rest]
    exact (ledger.nodup pool).erase a
  · rw [rest, (ledger.nodup pool).mem_erase_iff, shrunk, ledger.blocks pool b]
    simp only [true_and, and_comm, ne_eq]

/-- Datagrams go out through a socket that some owner holds. -/
theorem Ledger.send (ledger : Ledger trace fdOf live) (holds : fdOf owner = some fd)
    (data : List UInt8) : Ledger (trace ++ [.send fd data]) fdOf live :=
  ledger.use (ledger.fds.mem holds) (fun _ => rfl) fun _ _ => rfl

theorem Ledger.sendmmsg (ledger : Ledger trace fdOf live) (holds : fdOf owner = some fd)
    (msgs : List UdpClientMsg) : Ledger (trace ++ [.sendmmsg fd msgs]) fdOf live :=
  ledger.use (ledger.fds.mem holds) (fun _ => rfl) fun _ _ => rfl

end Tproxy
