import Tproxy.Lib.TableSweep
import Tproxy.Udp.Run

namespace Tproxy

variable {cfg : UdpConfig} {w : UdpWorld} {nat : UdpNat} {kept rest : List Nat}

/-- A round of an iteration over a session table that closes the sessions of
the nodes that `drop` picks. -/
def udpVisit (cfg : UdpConfig) (nat : UdpNat) (drop : UdpNode nat.Key → Bool) (w : UdpWorld)
    (cur : Nat) : UdpWorld :=
  match (w.nodes nat).record cur with
  | none => w
  | some node => if drop node then udpSessionCloseIndexed cfg w node.session else w

theorem udpGcVisitSession_eq (cfg : UdpConfig) (nat : UdpNat) (now timeout : EvTstamp) :
    udpGcVisitSession cfg nat now timeout =
      udpVisit cfg nat fun node => udpGcIsIdle now node.lastActive timeout := rfl

theorem udpSessionClearCb_eq (cfg : UdpConfig) (nat : UdpNat) :
    udpSessionClearCb cfg nat = udpVisit cfg nat fun _ => true := by
  funext w cur
  unfold udpSessionClearCb udpVisit
  cases (w.nodes nat).record cur with
  | none => rfl
  | some node => exact (if_pos rfl).symm

/-- The node at `n` is one that `drop` picks. -/
def UdpWorld.drops (w : UdpWorld) (nat : UdpNat) (drop : UdpNode nat.Key → Bool) (n : Nat) : Bool :=
  ((w.nodes nat).record n).any drop

/-- What an iteration over the rest of a table did: the nodes that `drop` picks
are gone with their sessions, everything else is as before. -/
structure UdpSwept (nat : UdpNat) (drop : UdpNode nat.Key → Bool) (kept rest : List Nat)
    (w w' : UdpWorld) : Prop where
  table : (w'.nodes nat).table = kept ++ rest.filter fun n => !w.drops nat drop n
  stays : ∀ n, ¬ (n ∈ rest ∧ w.drops nat drop n = true) →
    (w'.nodes nat).record n = (w.nodes nat).record n
  others : ∀ side, side ≠ nat → w'.nodes side = w.nodes side
  tproxy : w'.tproxy = w.tproxy
  trace : ∃ effects, w'.trace = w.trace ++ effects ∧ ∀ a, .free .session a ∈ effects →
    ∃ n ∈ rest, ∃ x, (w.nodes nat).record n = some x ∧ x.session = a ∧ drop x = true

/-- A session was closed with its node `x` at `cur`, and nothing else changed. -/
structure UdpClosedOne (nat : UdpNat) (cur : Nat) (x : UdpNode nat.Key) (w v : UdpWorld) : Prop where
  table : (v.nodes nat).table = (w.nodes nat).table.erase cur
  record : (v.nodes nat).record = Function.update (w.nodes nat).record cur none
  others : ∀ side, side ≠ nat → v.nodes side = w.nodes side
  tproxy : v.tproxy = w.tproxy
  trace : ∃ fd, v.trace = w.trace ++ [.free (.node nat) cur, .closed fd, .free .session x.session]

section Visit
variable {drop : UdpNode nat.Key → Bool} {cur : Nat} {x : UdpNode nat.Key} {v w' : UdpWorld}

theorem UdpInv.closes_one (inv : UdpInv cfg w .idle) (atCur : (w.nodes nat).record cur = some x) :
    UdpClosedOne nat cur x w (udpSessionClose cfg w x.session .indexed) := by
  obtain ⟨_, t, _, run⟩ := inv.toUdpCore.close atCur
  rw [run]
  refine ⟨?_, ?_, fun side differ => Function.update_of_ne differ .., rfl, t.serverFd, rfl⟩
  · simp only [Function.update_self, UdpCache.release, UdpCache.del]
  · simp only [Function.update_self, UdpCache.release, PoolArena.free, UdpCache.del]

/-- The visit of a node that is not picked leaves the iteration over the rest. -/
theorem UdpSwept.pass (unpicked : w.drops nat drop cur = false)
    (swept : UdpSwept nat drop (kept ++ [cur]) rest w w') : UdpSwept nat drop kept (cur :: rest) w w' := by
  have whole := Swept.pass unpicked ⟨swept.table, swept.stays⟩
  refine ⟨whole.table, whole.stays, swept.others, swept.tproxy, ?_⟩
  obtain ⟨effects, trace, freed⟩ := swept.trace
  refine ⟨effects, trace, fun a member => ?_⟩
  obtain ⟨n, inRest, found⟩ := freed a member
  exact ⟨n, List.mem_cons_of_mem _ inRest, found⟩

/-- The visit of a picked node closes its session before the rest, whose nodes
are other ones. -/
theorem UdpSwept.close (closed : UdpClosedOne nat cur x w v) (atCur : (w.nodes nat).record cur = some x)
    (picked : drop x = true) (notLater : cur ∉ rest) (swept : UdpSwept nat drop kept rest v w') :
    UdpSwept nat drop kept (cur :: rest) w w' := by
  have dropsCur : ((w.nodes nat).record cur).any drop = true := by
    rw [atCur, Option.any_some, picked]
  have later : Swept drop kept rest (v.nodes nat).record (w'.nodes nat).table (w'.nodes nat).record :=
    ⟨swept.table, swept.stays⟩
  rw [closed.record] at later
  have whole := later.remove dropsCur notLater
  refine ⟨whole.table, whole.stays, fun side apart => ?_, swept.tproxy.trans closed.tproxy, ?_⟩
  · exact (swept.others side apart).trans (closed.others side apart)
  · obtain ⟨fd, first⟩ := closed.trace
    obtain ⟨effects, trace, freed⟩ := swept.trace
    refine ⟨[.free (.node nat) cur, .closed fd, .free .session x.session] ++ effects, ?_,
      fun a member => ?_⟩
    · rw [trace, first, List.append_assoc]
    · rcases List.mem_append.mp member with here | later
      · have same : a = x.session := by simpa using here
        exact ⟨cur, List.mem_cons_self, x, atCur, same.symm, picked⟩
      · obtain ⟨n, inRest, y, atN, back, dropped⟩ := freed a later
        have differ : n ≠ cur := fun same => notLater (same ▸ inRest)
        rw [closed.record, Function.update_of_ne differ] at atN
        exact ⟨n, List.mem_cons_of_mem _ inRest, y, atN, back, dropped⟩

end Visit

/-- The iteration sees each entry of the table once, although it closes
sessions under way: the entries to come stay where they are. -/
theorem UdpInv.sweep (drop : UdpNode nat.Key → Bool) (inv : UdpInv cfg w .idle)
    (table : (w.nodes nat).table = kept ++ rest) :
    UdpInv cfg (rest.foldl (udpVisit cfg nat drop) w) .idle ∧
      UdpSwept nat drop kept rest w (rest.foldl (udpVisit cfg nat drop) w) := by
  induction rest generalizing w kept with
  | nil =>
    refine ⟨inv, ⟨table, fun _ _ => rfl, fun _ _ => rfl, rfl, [], ?_, ?_⟩⟩
    · rw [List.append_nil]
      rfl
    · intro a member
      cases member
  | cons cur rest ih =>
    have distinct := inv.links.nodup nat
    rw [table] at distinct
    obtain ⟨notLater, erased⟩ := sweep_next distinct
    have listed : cur ∈ (w.nodes nat).table := by
      rw [table]
      exact List.mem_append_right _ List.mem_cons_self
    obtain ⟨x, atCur⟩ := Option.isSome_iff_exists.mp ((inv.links.live nat cur).mpr listed)
    rw [List.foldl_cons]
    cases picked : drop x with
    | false =>
      have visit : udpVisit cfg nat drop w cur = w := by
        simp only [udpVisit, atCur, picked, Bool.false_eq_true, if_false]
      have table' : (w.nodes nat).table = (kept ++ [cur]) ++ rest := by
        rw [table, List.append_assoc, List.singleton_append]
      obtain ⟨after, swept⟩ := ih inv table'
      rw [visit]
      refine ⟨after, swept.pass ?_⟩
      simp only [UdpWorld.drops, atCur, Option.any_some, picked]
    | true =>
      have visit : udpVisit cfg nat drop w cur = udpSessionClose cfg w x.session .indexed := by
        simp only [udpVisit, atCur, picked, if_true, udpSessionCloseIndexed]
      have closed := inv.closes_one atCur
      have table' : ((udpSessionClose cfg w x.session .indexed).nodes nat).table = kept ++ rest := by
        rw [closed.table, table, erased]
      obtain ⟨after, swept⟩ := ih (UdpInv.close inv atCur) table'
      rw [visit]
      exact ⟨after, swept.close closed atCur picked notLater⟩

end Tproxy
