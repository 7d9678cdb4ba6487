import Tproxy.Tcp.ThreadInv

namespace Tproxy

variable {S : Ss2022} {cfg : TcpConfig} {w w₀ w' w'' : TcpThread S} {pending : Option Nat}
  {order : List Nat} {p : Nat} {b : TcpBlock S} {on : TcpWatcher → Bool} {α : Type}
  {Q : α → TcpThread S → Prop} {Q₀ : Unit → TcpThread S → Prop}

def TcpBlock.unlinked (b : TcpBlock S) : TcpBlock S := { b with prev := none, next := none }

/-- A handler of the session at `p` leaves the other sessions alone, up to
their place in the list. -/
structure TcpElsewhere (p : Nat) (w w' : TcpThread S) : Prop where
  blocks : ∀ q, q ≠ p → (w'.sessionPool.record q).map TcpBlock.unlinked =
    (w.sessionPool.record q).map TcpBlock.unlinked
  started : ∀ q k, q ≠ p → w'.started (q, k) = w.started (q, k)

theorem TcpElsewhere.refl (p : Nat) (w : TcpThread S) : TcpElsewhere p w w :=
  ⟨fun _ _ => rfl, fun _ _ _ => rfl⟩

theorem TcpElsewhere.trans (first : TcpElsewhere p w w') (second : TcpElsewhere p w' w'') :
    TcpElsewhere p w w'' :=
  ⟨fun q apart => (second.blocks q apart).trans (first.blocks q apart),
    fun q k apart => (second.started q k apart).trans (first.started q k apart)⟩

/-- A handler that began in `w₀` is at `w`, where the session at `p` is `b`
and the event loop has its watchers `on`. -/
structure TcpAt (cfg : TcpConfig) (w₀ : TcpThread S) (pending : Option Nat) (order : List Nat)
    (p : Nat) (b : TcpBlock S) (on : TcpWatcher → Bool) (w : TcpThread S) : Prop where
  inv : TcpInv cfg w pending order
  live : w.sessionPool.record p = some b
  on : ∀ k, w.started (p, k) = on k
  elsewhere : TcpElsewhere p w₀ w

namespace TcpThread

section Memory

theorem block_meets {Q : TcpBlock S → TcpThread S → Prop} (live : w.sessionPool.record p = some b)
    (next : Q b w) : (block p).Meets w Q :=
  Program.meets_of_run (by rw [block, live]) next

theorem setBlock_meets {b' : TcpBlock S} (live : w.sessionPool.record p = some b)
    (next : Q₀ () (w.write p b')) : (setBlock p b').Meets w Q₀ :=
  Program.meets_of_run (by rw [setBlock, live]; rfl) next

theorem handshake_meets {s : TcpSession S (TcpHandshake S)}
    {Q : TcpSession S (TcpHandshake S) → TcpThread S → Prop}
    (live : w.sessionPool.record p = some b) (half : b.half = .handshake s) (next : Q s w) :
    (handshake p).Meets w Q := by
  refine Program.meets_bind.mpr (block_meets live ?_)
  simp only [half]
  exact next

theorem relay_meets {s : TcpSession S TcpRelay} {Q : TcpSession S TcpRelay → TcpThread S → Prop}
    (live : w.sessionPool.record p = some b) (half : b.half = .relay s) (next : Q s w) :
    (relay p).Meets w Q := by
  refine Program.meets_bind.mpr (block_meets live ?_)
  simp only [half]
  exact next

theorem setHalf_meets (here : TcpAt cfg w₀ pending order p b on w) (half : TcpHalf S)
    (next : ∀ w', TcpAt cfg w₀ pending order p { b with half := half } on w' → Q₀ () w') :
    (setHalf p half).Meets w Q₀ := by
  refine Program.meets_bind.mpr (block_meets here.live (setBlock_meets here.live (next _ ?_)))
  refine ⟨here.inv.setHalf here.live half, ?_, here.on, here.elsewhere.trans ⟨fun q apart => ?_, ?_⟩⟩
  · rw [write_record, Function.update_self]
  · rw [write_record, Function.update_of_ne apart]
  · exact fun _ _ _ => rfl

theorem evSet_meets (here : TcpAt cfg w₀ pending order p b on w) (k : TcpWatcher) (start : Bool)
    (server : start = true → k = .server → b.serverFd.isSome = true)
    (next : ∀ w', TcpAt cfg w₀ pending order p b (Function.update on k start) w' → Q₀ () w') :
    (evSet p k start).Meets w Q₀ := by
  have inv : TcpInv cfg { w with started := Function.update w.started (p, k) start } pending order := by
    cases start with
    | false => exact here.inv.evStop (p, k)
    | true => exact here.inv.evStart here.live k (server rfl)
  refine Program.meets_bind.mpr (block_meets here.live (Program.meets_of_run rfl (next _ ?_)))
  refine ⟨inv, here.live, fun k' => ?_, here.elsewhere.trans ⟨fun _ _ => rfl, fun q k' apart => ?_⟩⟩
  · by_cases own : k' = k
    · rw [own, Function.update_self]
      exact Function.update_self ..
    · rw [Function.update_of_ne own, ← here.on k']
      exact Function.update_of_ne (fun same => own (Prod.mk.inj same).2) ..
  · exact Function.update_of_ne (fun same => apart (Prod.mk.inj same).1) ..

theorem evStop_meets (here : TcpAt cfg w₀ pending order p b on w) (k : TcpWatcher)
    (next : ∀ w', TcpAt cfg w₀ pending order p b (Function.update on k false) w' → Q₀ () w') :
    (evStop p k).Meets w Q₀ :=
  evSet_meets here k false (fun stopped => by cases stopped) next

theorem evStart_meets (here : TcpAt cfg w₀ pending order p b on w) (k : TcpWatcher)
    (server : k = .server → b.serverFd.isSome = true)
    (next : ∀ w', TcpAt cfg w₀ pending order p b (Function.update on k true) w' → Q₀ () w') :
    (evStart p k).Meets w Q₀ :=
  evSet_meets here k true (fun _ => server) next

end Memory

section Descriptors
variable {fd : Nat}

theorem openFd_meets {Q : Option Nat → TcpThread S → Prop}
    (answer : (fds : List Nat) → FreshFd fds) (refused : Q none w)
    (granted : ∀ fd, fd ∉ fdsInUse w.fds → Q (some fd) { w with fds := .opened fd :: w.fds }) :
    (openFd answer).Meets w Q := by
  unfold Program.Meets openFd
  cases answer (fdsInUse w.fds) with
  | none => exact refused
  | some fd => exact granted fd.1 fd.2

theorem closeFd_meets (open_ : fd ∈ fdsInUse w.fds) (reset : Bool)
    (next : Q₀ () { w with fds := .closed fd reset :: w.fds }) : (closeFd fd reset).Meets w Q₀ :=
  Program.meets_of_run (by rw [closeFd, if_pos open_]) next

end Descriptors

section Buffers

/-- A relay buffer is there for the session, or there is none. -/
theorem tcpSessionAllocRelayIn_meets {Q : Bool → TcpThread S → Prop}
    (here : TcpAt cfg w₀ pending order p b on w) (idle : b.relayInAllocated = false)
    (memalign : (p : MemoryPool) → PlacedSlab p)
    (refused : ∀ w', TcpAt cfg w₀ pending order p b on w' → Q false w')
    (granted : ∀ w' a, TcpAt cfg w₀ pending order p
      { b with serverToClientIn := a, relayInAllocated := true } on w' → Q true w') :
    (tcpSessionAllocRelayIn memalign p).Meets w Q := by
  refine Program.meets_bind.mpr (Program.meets_of_run rfl ?_)
  generalize run : w.relayInPool.alloc memalign tcpSsRespInBufsiz () = result
  obtain ⟨arena, call⟩ := result
  cases got : call.result with
  | none =>
    refine refused _ ⟨⟨{ here.inv.listed with }, ?_, { here.inv.fds with }, here.inv.watched⟩, here.live,
      here.on, { here.elsewhere with }⟩
    exact here.inv.buffers.alloc_none run got
  | some a =>
    refine Program.meets_bind.mpr (block_meets here.live ?_)
    refine Program.meets_bind.mpr (setBlock_meets here.live (granted _ a ?_))
    have listed : TcpListed cfg (w.write p { b with serverToClientIn := a, relayInAllocated := true })
        order := here.inv.listed.write here.live rfl rfl
    have fds : TcpFds (w.write p { b with serverToClientIn := a, relayInAllocated := true }) pending :=
      here.inv.fds.write here.live rfl
    refine ⟨⟨{ listed with }, here.inv.buffers.alloc_some here.live idle run got, { fds with }, ?_⟩, ?_,
      here.on, here.elsewhere.trans ⟨fun q apart => ?_, fun _ _ _ => rfl⟩⟩
    · refine here.inv.watched.write fun on => ?_
      obtain ⟨c, same, server⟩ := here.inv.watched p .server on
      cases here.live.symm.trans same
      exact server rfl
    · exact Function.update_self ..
    · rw [write_record, Function.update_of_ne apart]

end Buffers

end TcpThread

end Tproxy
