import Mathlib.Data.List.Perm.Subperm
import Tproxy.Tcp.Handshake
import Tproxy.Tcp.Upstream

namespace Tproxy

variable {S : Ss2022}

/-- The servers reported as failed, newest first. -/
def failures (calls : List SelectorCall) : List Nat :=
  calls.filterMap fun
    | .failure serverIdx => some serverIdx
    | _ => none

/-- The server and the epoch of the newest attempt. -/
def latestAttempt (calls : List SelectorCall) : Option (Nat × Nat) :=
  calls.findSome? fun
    | .attempt serverIdx epoch => some (serverIdx, epoch)
    | _ => none

/-- The header of the socket was built for the target, over the payload. -/
def ServerSocket.Built (socket : ServerSocket S) (target : S.Addr) (payload : List UInt8) : Prop :=
  ∃ ssClient, S.buildRequestHeader ssClient target payload = (socket.ssClient, .ok socket.header)

/-- The socket accepted the complete request header. -/
def ServerSocket.Complete (socket : ServerSocket S) : Prop :=
  socket.header ≠ [] ∧ socket.header <+: socket.accepted

/-- A socket that is given up: it got a part of its header only, and not the
end of it if the header carries a payload. -/
structure ServerSocket.Abandoned (socket : ServerSocket S) (payload : List UInt8) : Prop where
  front : socket.accepted <+: socket.header
  partly : payload ≠ [] → ¬ socket.Complete
  open_ : socket.shutdown = false

/-- A call may follow the earlier ones: it starts an attempt on one of `n` servers, or it
reports the outcome of the newest attempt. -/
def SelectorCall.Follows (n : Nat) (earlier : List SelectorCall) : SelectorCall → Prop
  | .attempt serverIdx _ => serverIdx < n
  | .failure serverIdx => ∃ epoch, latestAttempt earlier = some (serverIdx, epoch)
  | .success serverIdx epoch => latestAttempt earlier = some (serverIdx, epoch)

def CallsMatch (n : Nat) (calls : List SelectorCall) : Prop :=
  ∀ c earlier, c :: earlier <:+ calls → c.Follows n earlier

/-- The servers and sockets of a session, while the failure of the attempt on
`blamed` is not reported yet. -/
structure NetInv (n : Nat) (target : S.Addr) (blamed : Option Nat) (net : TcpNet S) : Prop where
  taken_nodup : net.taken.Nodup
  taken_lt : ∀ i ∈ net.taken, i < n
  exhausted : net.exhausted = true → ∀ i < n, i ∈ net.taken
  blame : net.broken = blamed.toList ++ failures net.calls
  broken_nodup : net.broken.Nodup
  broken_taken : ∀ i ∈ net.broken, i ∈ net.taken
  calls : CallsMatch n net.calls
  blamed_latest : ∀ i ∈ blamed, ∃ epoch, latestAttempt net.calls = some (i, epoch)
  built : ∀ k < net.opened, (net.socket k).Built target net.firstData
  past : ∀ k, k + 1 < net.opened → (net.socket k).Abandoned net.firstData

/-- How the outside view of a session develops: sockets keep their server and
header, only the newest accepts more, and the payload is fixed by then. -/
structure NetGrows (net net' : TcpNet S) : Prop where
  opened : net.opened ≤ net'.opened
  own : ∀ k < net.opened, (net'.socket k).header = (net.socket k).header
  accepted : ∀ k < net.opened, (net.socket k).accepted <+: (net'.socket k).accepted
  past : ∀ k, k + 1 < net.opened → net'.socket k = net.socket k
  firstData : 0 < net.opened → net'.firstData = net.firstData
  taken : net.taken <:+ net'.taken

variable {n i serverIdx epoch : Nat} {target : S.Addr} {blamed : Option Nat}
  {net net' net'' : TcpNet S} {c : SelectorCall} {calls : List SelectorCall}

theorem ServerSocket.grows_of_eq {socket socket' : ServerSocket S} (same : socket' = socket) :
    socket.accepted <+: socket'.accepted :=
  same ▸ List.prefix_rfl

theorem NetGrows.refl (net : TcpNet S) : NetGrows net net :=
  ⟨Nat.le_refl _, fun _ _ => rfl, fun _ _ => List.prefix_rfl, fun _ _ => rfl, fun _ => rfl,
    List.suffix_rfl⟩

theorem NetGrows.trans (first : NetGrows net net') (second : NetGrows net' net'') :
    NetGrows net net'' where
  opened := Nat.le_trans first.opened second.opened
  own k bound := (second.own k (Nat.lt_of_lt_of_le bound first.opened)).trans (first.own k bound)
  accepted k bound :=
    (first.accepted k bound).trans (second.accepted k (Nat.lt_of_lt_of_le bound first.opened))
  past k bound := (second.past k (Nat.lt_of_lt_of_le bound first.opened)).trans (first.past k bound)
  firstData some :=
    (second.firstData (Nat.lt_of_lt_of_le some first.opened)).trans (first.firstData some)
  taken := first.taken.trans second.taken

/-- The same sockets and payload, and no fewer servers taken. -/
theorem NetGrows.of_same (sockets : (net'.opened, net'.socket) = (net.opened, net.socket))
    (firstData : net'.firstData = net.firstData) (taken : net.taken <:+ net'.taken) :
    NetGrows net net' := by
  obtain ⟨opened, socket⟩ := Prod.mk.inj sockets
  exact ⟨Nat.le_of_eq opened.symm, fun k _ => congrArg ServerSocket.header (congrFun socket k),
    fun k _ => ServerSocket.grows_of_eq (congrFun socket k), fun k _ => congrFun socket k,
    fun _ => firstData, taken⟩

theorem CallsMatch.cons (matching : CallsMatch n calls) (head : c.Follows n calls) :
    CallsMatch n (c :: calls) := by
  intro d earlier before
  rcases List.suffix_cons_iff.mp before with same | inside
  · obtain ⟨rfl, rfl⟩ := List.cons.inj same
    exact head
  · exact matching d earlier inside

theorem NetInv.taken_length (inv : NetInv n target blamed net) : net.taken.length ≤ n := by
  have sub : net.taken.Subperm (List.range n) := List.subperm_of_subset inv.taken_nodup
    fun i member => List.mem_range.mpr (inv.taken_lt i member)
  have short := sub.length_le
  rwa [List.length_range] at short

/-- The attempt on the current server fails, and it is not reported yet. -/
theorem NetInv.breakOff (inv : NetInv n target none net) (taken : i ∈ net.taken)
    (fresh : i ∉ net.broken) (latest : ∃ epoch, latestAttempt net.calls = some (i, epoch))
    (nodeFailure : Bool) :
    NetInv n target (if nodeFailure then some i else none) (net.breakOff i nodeFailure) := by
  cases nodeFailure with
  | false => exact inv
  | true =>
    have blame := inv.blame
    exact { inv with
      blame := congrArg (i :: ·) blame
      broken_nodup := List.nodup_cons.mpr ⟨fresh, inv.broken_nodup⟩
      broken_taken := List.forall_mem_cons.mpr ⟨taken, inv.broken_taken⟩
      blamed_latest := by
        rintro j ⟨⟩
        exact latest }

theorem NetInv.report (inv : NetInv n target (some i) net) :
    NetInv n target none { net with calls := .failure i :: net.calls } :=
  { inv with
    blame := inv.blame
    calls := inv.calls.cons (c := .failure i) (inv.blamed_latest i rfl)
    blamed_latest := fun _ none => by cases none }

theorem NetInv.attempt (inv : NetInv n target none net) (taken : i ∈ net.taken) (e : Nat) :
    NetInv n target none { net with calls := .attempt i e :: net.calls } :=
  { inv with
    blame := inv.blame
    calls := inv.calls.cons (c := .attempt i e) (inv.taken_lt i taken)
    blamed_latest := fun _ none => by cases none }

theorem NetInv.take (inv : NetInv n target none net) (bound : i < n) (fresh : i ∉ net.taken) :
    NetInv n target none { net with taken := i :: net.taken } :=
  { inv with
    taken_nodup := List.nodup_cons.mpr ⟨fresh, inv.taken_nodup⟩
    taken_lt := List.forall_mem_cons.mpr ⟨bound, inv.taken_lt⟩
    exhausted := fun exhausted j bound => List.mem_cons_of_mem i (inv.exhausted exhausted j bound)
    broken_taken := fun j member => List.mem_cons_of_mem i (inv.broken_taken j member) }

theorem NetInv.exhaust (inv : NetInv n target none net) (all : ∀ i < n, i ∈ net.taken) :
    NetInv n target none { net with exhausted := true } :=
  { inv with exhausted := fun _ => all }

theorem TcpNet.connect_socket (net : TcpNet S) (header : List UInt8) (ssClient : S.Enc × S.Dec)
    (queued : Nat) : (net.connect i header ssClient queued).socket net.opened =
      ⟨i, header, ssClient, header.take queued, false⟩ :=
  Function.update_self ..

theorem TcpNet.connect_other (net : TcpNet S) (header : List UInt8) (ssClient : S.Enc × S.Dec)
    (queued : Nat) {k : Nat} (other : k ≠ net.opened) :
    (net.connect i header ssClient queued).socket k = net.socket k :=
  Function.update_of_ne other ..

/-- A new socket is opened while the ones before are given up. -/
theorem NetInv.connect (inv : NetInv n target none net)
    (given : ∀ k < net.opened, (net.socket k).Abandoned net.firstData) {header : List UInt8}
    {init ssClient : S.Enc × S.Dec} (queued : Nat)
    (build : S.buildRequestHeader init target net.firstData = (ssClient, .ok header)) :
    NetInv n target none (net.connect i header ssClient queued) :=
  { inv with
    built := fun k bound => by
      by_cases newest : k = net.opened
      · rw [newest, TcpNet.connect_socket]
        exact ⟨init, build⟩
      · rw [TcpNet.connect_other net header ssClient queued newest]
        have bound : k < net.opened + 1 := bound
        exact inv.built k (by omega)
    past := fun k bound => by
      have bound : k + 1 < net.opened + 1 := bound
      rw [TcpNet.connect_other net header ssClient queued (by omega)]
      exact given k (by omega) }

theorem NetGrows.connect (net : TcpNet S) (header : List UInt8) (ssClient : S.Enc × S.Dec)
    (queued : Nat) : NetGrows net (net.connect i header ssClient queued) := by
  have other (k : Nat) (bound : k < net.opened) :
      (net.connect i header ssClient queued).socket k = net.socket k :=
    TcpNet.connect_other net header ssClient queued (Nat.ne_of_lt bound)
  exact ⟨Nat.le_succ _, fun k bound => congrArg ServerSocket.header (other k bound),
    fun k bound => ServerSocket.grows_of_eq (other k bound), fun k bound => other k (by omega),
    fun _ => rfl, List.suffix_rfl⟩

/-- The newest socket accepts bytes. -/
theorem NetInv.accept (inv : NetInv n target blamed net) {k : Nat} (newest : k + 1 = net.opened)
    (bytes : List UInt8) : NetInv n target blamed (net.accept (some k) bytes) :=
  { inv with
    built := fun j bound => by
      by_cases own : j = k
      · rw [own, TcpNet.accept_socket]
        exact inv.built k (by omega)
      · rw [TcpNet.accept_other net bytes own]
        exact inv.built j bound
    past := fun j bound => by
      have bound : j + 1 < net.opened := bound
      rw [TcpNet.accept_other net bytes (by omega)]
      exact inv.past j bound }

theorem NetGrows.accept (net : TcpNet S) {k : Nat} (newest : k + 1 = net.opened)
    (bytes : List UInt8) : NetGrows net (net.accept (some k) bytes) := by
  refine ⟨Nat.le_refl _, fun j _ => ?_, fun j _ => ?_, fun j bound => ?_, fun _ => rfl,
    List.suffix_rfl⟩
  · by_cases own : j = k
    · rw [own, TcpNet.accept_socket]
    · rw [TcpNet.accept_other net bytes own]
  · by_cases own : j = k
    · rw [own, TcpNet.accept_socket]
      exact List.prefix_append _ _
    · exact ServerSocket.grows_of_eq (TcpNet.accept_other net bytes own)
  · exact TcpNet.accept_other net bytes (by omega)

end Tproxy
