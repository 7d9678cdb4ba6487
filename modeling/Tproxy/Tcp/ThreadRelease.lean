import Tproxy.Tcp.ThreadSteps

namespace Tproxy

variable {S : Ss2022} {w w₁ w' : TcpThread S} {p q : Nat} {b c : TcpBlock S}

/-- Only links differ, and the head of the list. -/
structure TcpRelinked (w w' : TcpThread S) : Prop where
  records : ∀ q, (w'.sessionPool.record q).map TcpBlock.unlinked =
    (w.sessionPool.record q).map TcpBlock.unlinked
  holds : ∀ size limit count, w.sessionPool.Holds size limit count → w'.sessionPool.Holds size limit count
  fds : w'.fds = w.fds
  relayInPool : w'.relayInPool = w.relayInPool
  started : w'.started = w.started

theorem TcpRelinked.refl (w : TcpThread S) : TcpRelinked w w := ⟨fun _ => rfl, fun _ _ _ => id, rfl, rfl, rfl⟩

theorem TcpRelinked.trans (first : TcpRelinked w w₁) (second : TcpRelinked w₁ w') : TcpRelinked w w' where
  records q := (second.records q).trans (first.records q)
  holds size limit count holds := second.holds size limit count (first.holds size limit count holds)
  fds := second.fds.trans first.fds
  relayInPool := second.relayInPool.trans first.relayInPool
  started := second.started.trans first.started

theorem TcpRelinked.write (live : w.sessionPool.record p = some b) (same : c.unlinked = b.unlinked) :
    TcpRelinked w (w.write p c) where
  records q := by
    rw [TcpThread.write_record]
    by_cases own : q = p
    · rw [own, Function.update_self, live, Option.map_some, Option.map_some, same]
    · rw [Function.update_of_ne own]
  holds _ _ _ holds := holds.write c live
  fds := rfl
  relayInPool := rfl
  started := rfl

namespace TcpThread

section Runs

theorem block_run (live : w.sessionPool.record p = some b) : block p w = .ok (b, w) := by
  rw [block, live]

theorem setBlock_run (live : w.sessionPool.record p = some b) (b' : TcpBlock S) :
    setBlock p b' w = .ok ((), w.write p b') := by
  rw [setBlock, live]
  rfl

theorem evStop_run (live : w.sessionPool.record p = some b) (k : TcpWatcher) :
    evStop p k w = .ok ((), { w with started := Function.update w.started (p, k) false }) := by
  rw [evStop, evSet, Program.bind_run (block_run live)]

theorem setPrev_run (live : w.sessionPool.record p = some b) (prev : Option Nat) :
    setPrev p prev w = .ok ((), w.write p { b with prev := prev }) := by
  rw [setPrev, Program.bind_run (block_run live), setBlock_run live]

theorem setNext_run (live : w.sessionPool.record p = some b) (next : Option Nat) :
    setNext p next w = .ok ((), w.write p { b with next := next }) := by
  rw [setNext, Program.bind_run (block_run live), setBlock_run live]

end Runs

section Stop

/-- The event loop has no watcher of the session at `p`. -/
def stopped (w : TcpThread S) (p : Nat) : TcpThread S :=
  { w with started := fun x => if x.1 = p then false else w.started x }

theorem tcpSessionStop_run (live : w.sessionPool.record p = some b) (watched : TcpWatched w)
    (client : b.clientFd.isSome = true) : tcpSessionStop p w = .ok ((), w.stopped p) := by
  have off (server : Bool) (quiet : server = false → w.started (p, .server) = false) :
      Function.update (if server then Function.update (Function.update w.started (p, .client) false)
        (p, .server) false else Function.update w.started (p, .client) false) (p, .timer) false =
      fun x => if x.1 = p then false else w.started x := by
    funext ⟨q, k⟩
    by_cases own : q = p
    · subst own
      rw [if_pos rfl]
      cases k <;> cases server <;> simp [quiet]
    · rw [if_neg own]
      cases server <;> simp [own]
  rw [tcpSessionStop, Program.bind_run (block_run live), if_pos client]
  refine (Program.bind_run (evStop_run live .client)).trans ?_
  by_cases server : b.serverFd.isSome = true
  · simp only [if_pos server]
    refine (Program.bind_run (evStop_run (by exact live) .server)).trans ?_
    refine (evStop_run (by exact live) .timer).trans ?_
    have same := off true (fun none => by cases none)
    rw [if_pos rfl] at same
    simp only [same, stopped]
  · have quiet : w.started (p, .server) = false := by
      refine eq_false_of_ne_true fun on => ?_
      obtain ⟨c, atP, fd⟩ := watched p .server on
      cases live.symm.trans atP
      exact server (fd rfl)
    simp only [if_neg server]
    refine (evStop_run (by exact live) .timer).trans ?_
    have same := off false fun _ => quiet
    rw [if_neg Bool.false_ne_true] at same
    simp only [same, stopped]

end Stop

section Release

theorem closeWatcherFd_run {fd : Option Nat} (open_ : ∀ n, fd = some n → n ∈ fdsInUse w.fds) (reset : Bool) :
    closeWatcherFd fd reset w = .ok ((), { w with fds := closedFd fd reset w.fds }) := by
  cases fd with
  | none => rfl
  | some n => rw [closeWatcherFd, closeFd, if_pos (open_ n rfl), closedFd]

/-- The buffer pool without the relay buffer of a session. -/
def freedRelayIn (b : TcpBlock S) (pool : PoolArena Unit) : PoolArena Unit :=
  match b.relayIn with
  | some a => pool.free a tcpSsRespInBufsiz
  | none => pool

/-- The descriptors and the relay buffer of the session at `p` are given back. -/
def released (w : TcpThread S) (p : Nat) (b : TcpBlock S) (reset : Bool) : TcpThread S :=
  TcpThread.write
    { w with
      fds := closedFd b.serverFd reset (closedFd b.clientFd reset w.fds)
      relayInPool := freedRelayIn b w.relayInPool } p { b with relayInAllocated := false }

theorem tcpSessionRelease_run (live : w.sessionPool.record p = some b)
    (client : ∀ fd, b.clientFd = some fd → fd ∈ fdsInUse w.fds)
    (server : ∀ fd, b.serverFd = some fd → fd ∈ fdsInUse (closedFd b.clientFd reset w.fds))
    (relayIn : ∀ a, b.relayIn = some a → (w.relayInPool.record a).isSome = true) :
    tcpSessionRelease p reset w = .ok ((), w.released p b reset) := by
  rw [tcpSessionRelease, Program.bind_run (block_run live), Program.bind_run (closeWatcherFd_run client reset)]
  refine (Program.bind_run (closeWatcherFd_run (by exact server) reset)).trans ?_
  by_cases allocated : b.relayInAllocated = true
  · have held : b.relayIn = some b.serverToClientIn := by rw [TcpBlock.relayIn, if_pos allocated]
    have buffer := relayIn _ held
    have freed : freeRelayIn b.serverToClientIn
        { w with fds := closedFd b.serverFd reset (closedFd b.clientFd reset w.fds) } =
        .ok ((), { w with
          fds := closedFd b.serverFd reset (closedFd b.clientFd reset w.fds)
          relayInPool := freedRelayIn b w.relayInPool }) := by
      obtain ⟨_, atBuffer⟩ := Option.isSome_iff_exists.mp buffer
      rw [freeRelayIn, freedRelayIn, held]
      simp only [atBuffer]
    rw [if_pos allocated]
    refine (Program.bind_run freed).trans (setBlock_run (by exact live) _)
  · have idle : b.relayIn = none := by rw [TcpBlock.relayIn, if_neg allocated]
    have same : { b with relayInAllocated := false } = b := by
      rw [← eq_false_of_ne_true allocated]
    rw [if_neg allocated, released, freedRelayIn, idle, same]
    have kept : w.sessionPool.write p b = w.sessionPool := by
      rw [PoolArena.write, ← live, Function.update_eq_self]
    rw [TcpThread.write, kept]
    rfl

end Release

section Unlink

theorem linkPrev_run (live : w.sessionPool.record q = some c) (x : Option Nat) :
    setPrev q x w = .ok ((), w.write q { c with prev := x }) ∧
      TcpRelinked w (w.write q { c with prev := x }) ∧
      (w.write q { c with prev := x }).field (·.next) = w.field (·.next) ∧
      (w.write q { c with prev := x }).field (·.prev) = Function.update (w.field (·.prev)) q x :=
  ⟨setPrev_run live x, .write live rfl, field_write_same live rfl, field_write ..⟩

theorem linkNext_run (live : w.sessionPool.record q = some c) (x : Option Nat) :
    setNext q x w = .ok ((), w.write q { c with next := x }) ∧
      TcpRelinked w (w.write q { c with next := x }) ∧
      (w.write q { c with next := x }).field (·.prev) = w.field (·.prev) ∧
      (w.write q { c with next := x }).field (·.next) = Function.update (w.field (·.next)) q x :=
  ⟨setNext_run live x, .write live rfl, field_write_same live rfl, field_write ..⟩

/-- The neighbours of a session are linked to each other. -/
theorem tcpSessionUnlink_run (live : w.sessionPool.record p = some b)
    (next : ∀ n, b.next = some n → (w.sessionPool.record n).isSome = true)
    (prev : ∀ n, b.prev = some n → (w.sessionPool.record n).isSome = true) :
    ∃ w', tcpSessionUnlink p w = .ok ((), w') ∧ TcpRelinked w w' ∧
      w'.sessionHead = (if b.prev = none then b.next else w.sessionHead) ∧
      (∀ q, w'.field (·.next) q = if b.prev = some q then b.next else w.field (·.next) q) ∧
      ∀ q, w'.field (·.prev) q = if b.next = some q then b.prev else w.field (·.prev) q := by
  have alive {w₂ : TcpThread S} (kept : TcpRelinked w w₂) {n : Nat}
      (some : (w.sessionPool.record n).isSome = true) : ∃ c, w₂.sessionPool.record n = Option.some c := by
    have same := congrArg Option.isSome (kept.records n)
    rw [Option.isSome_map, Option.isSome_map, some] at same
    exact Option.isSome_iff_exists.mp same
  -- the cell before, once the one behind leads back to it
  have second (w₂ : TcpThread S) (kept : TcpRelinked w w₂) (head : w₂.sessionHead = w.sessionHead)
      (next₂ : w₂.field (·.next) = w.field (·.next))
      (prev₂ : ∀ q, w₂.field (·.prev) q = if b.next = some q then b.prev else w.field (·.prev) q) :
      ∃ w', (match b.prev with
          | some prev => setNext prev b.next
          | none => setHead b.next) w₂ = .ok ((), w') ∧ TcpRelinked w w' ∧
        w'.sessionHead = (if b.prev = none then b.next else w.sessionHead) ∧
        (∀ q, w'.field (·.next) q = if b.prev = some q then b.next else w.field (·.next) q) ∧
        ∀ q, w'.field (·.prev) q = if b.next = some q then b.prev else w.field (·.prev) q := by
    cases before : b.prev with
    | none =>
      refine ⟨_, rfl, kept.trans ⟨fun _ => rfl, fun _ _ _ => id, rfl, rfl, rfl⟩, rfl, fun q => ?_, fun q => ?_⟩
      · rw [if_neg (by rintro ⟨⟩), ← next₂]
        rfl
      · rw [← before, ← prev₂]
        rfl
    | some n =>
      obtain ⟨c, live⟩ := alive kept (prev n before)
      obtain ⟨run, relinked, samePrev, next'⟩ := linkNext_run live b.next
      refine ⟨_, run, kept.trans relinked, ?_, fun q => ?_, fun q => ?_⟩
      · rw [if_neg (by rintro ⟨⟩), ← head]
        rfl
      · rw [next', next₂, Function.update_apply]
        simp only [Option.some.injEq, eq_comm]
      · rw [samePrev, prev₂, before]
  rw [tcpSessionUnlink, Program.bind_run (block_run live)]
  cases behind : b.next with
  | none =>
    have done := second w (.refl w) rfl rfl fun q => by rw [behind, if_neg (by rintro ⟨⟩)]
    rw [behind] at done
    exact done
  | some n =>
    obtain ⟨c, live'⟩ := Option.isSome_iff_exists.mp (next n behind)
    obtain ⟨run, relinked, sameNext, prev'⟩ := linkPrev_run live' b.prev
    have done := second _ relinked rfl sameNext fun q => by
      rw [prev', Function.update_apply, behind]
      simp only [Option.some.injEq, eq_comm]
    rw [behind] at done
    obtain ⟨w', ends, facts⟩ := done
    exact ⟨w', (Program.bind_run run).trans ends, facts⟩

end Unlink

end TcpThread

end Tproxy
