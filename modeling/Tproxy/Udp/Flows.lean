import Tproxy.Udp.Arrivals
import Tproxy.Udp.Deferred

namespace Tproxy

/-- Who talks to whom: a client, the destination that it addressed, and whether
that destination stands for a name. -/
structure UdpFlow where
  client : UdpEndpointKey
  target : UdpEndpointKey
  usesFakedns : Bool

def UdpSession.flow (s : UdpSession) : UdpFlow :=
  ⟨s.clientEndpoint, s.originalTargetEndpoint, s.usesFakedns⟩

def UdpIngress.flow (pkt : UdpIngress) : UdpFlow :=
  ⟨pkt.clientEndpoint, pkt.originalTargetEndpoint, pkt.usesFakedns⟩

/-- The session has the table and the key of the packet. -/
def UdpIngress.Uses (pkt : UdpIngress) (s : UdpSession) : Prop :=
  s.nat = pkt.nat ∧ s.key pkt.nat = pkt.key pkt.nat

/-- The effects that hand datagrams to the system. -/
def UdpEffect.isSend : UdpEffect → Bool
  | .send _ _ | .sendmmsg _ _ => true
  | _ => false

/-- A session keeps who talks in it, and its socket. -/
def UdpSession.Same (s t : UdpSession) : Prop := s.flow = t.flow ∧ s.serverFd = t.serverFd

/-- The block of a session is handed out. -/
def UdpHandedOut (a : Nat) (effects : List UdpEffect) : Prop :=
  ∃ call, .alloc .session call ∈ effects ∧ call.result = some a

/-- Nothing was sent, and every session that is live afterwards was there before, or
its block was handed out and it has a `new` flow. -/
structure UdpCarries (new : UdpFlow → Prop) (w w' : UdpWorld) : Prop where
  carried : ∃ effects, w'.trace = w.trace ++ effects ∧ effects.filter UdpEffect.isSend = [] ∧
    ∀ a s, w'.sessions.record a = some s →
      (new s.flow ∧ UdpHandedOut a effects) ∨ ∃ t, w.sessions.record a = some t ∧ t.Same s

variable {cfg : UdpConfig} {new : UdpFlow → Prop} {w w' w'' : UdpWorld} {nat : UdpNat} {a n fd : Nat}
  {s : UdpSession} {now timeout : EvTstamp} {pkt : UdpIngress} {answer : UdpIngressAnswer cfg}
  {packet : UdpReplyPacket} {deferred : List Nat}

section Carries

theorem UdpCarries.of_effects (effects : List UdpEffect) (trace : w'.trace = w.trace ++ effects)
    (silent : effects.filter UdpEffect.isSend = [])
    (same : w'.sessions.record = w.sessions.record) : UdpCarries new w w' where
  carried := ⟨effects, trace, silent, fun _ s atA => Or.inr ⟨s, same ▸ atA, rfl, rfl⟩⟩

theorem UdpCarries.refl : UdpCarries new w w :=
  .of_effects [] (List.append_nil _).symm rfl rfl

theorem UdpCarries.trans (first : UdpCarries new w w') (second : UdpCarries new w' w'') :
    UdpCarries new w w'' := by
  obtain ⟨before, trace, quiet, old⟩ := first.carried
  obtain ⟨after, trace', quiet', later⟩ := second.carried
  refine ⟨before ++ after, ?_, ?_, fun a s atA => ?_⟩
  · rw [trace', trace, List.append_assoc]
  · rw [List.filter_append, quiet, quiet', List.append_nil]
  · rcases later a s atA with ⟨made, handed⟩ | ⟨t, atA', same⟩
    · exact Or.inl ⟨made, handed.imp fun _ => And.imp_left (List.mem_append_right before)⟩
    · refine (old a t atA').imp (fun both => ⟨same.1 ▸ both.1, ?_⟩) ?_
      · exact both.2.imp fun _ => And.imp_left (List.mem_append_left after)
      · rintro ⟨r, atA'', same'⟩
        exact ⟨r, atA'', same'.1.trans same.1, same'.2.trans same.2⟩

theorem UdpCarries.mono {wider : UdpFlow → Prop} (carries : UdpCarries new w w')
    (implies : ∀ flow, new flow → wider flow) : UdpCarries wider w w' := by
  obtain ⟨effects, trace, silent, old⟩ := carries.carried
  exact ⟨effects, trace, silent, fun a s atA => (old a s atA).imp_left (And.imp_left (implies s.flow))⟩

/-- A loop whose rounds send nothing. -/
theorem UdpCarries.foldl {ι : Type} {round : UdpWorld → ι → UdpWorld}
    (carries : ∀ w i, UdpCarries new w (round w i)) (rounds : List ι) (w : UdpWorld) :
    UdpCarries new w (rounds.foldl round w) := by
  induction rounds generalizing w with
  | nil => exact .refl
  | cons i rounds ih => exact (carries w i).trans (ih (round w i))

/-- A round that sends nothing leaves the datagrams of the trace as they are. -/
theorem UdpCarries.sends (carries : UdpCarries new w w') :
    w'.trace.filter UdpEffect.isSend = w.trace.filter UdpEffect.isSend := by
  obtain ⟨effects, trace, silent, _⟩ := carries.carried
  rw [trace, List.filter_append, silent, List.append_nil]

/-- The records after an allocation are the old ones and the new one. -/
theorem PoolArena.alloc_record {ρ : Type} (arena : PoolArena ρ)
    (memalign : (p : MemoryPool) → PlacedSlab p) (size : Nat) (r : ρ) {b : Nat} {x : ρ}
    (atB : (arena.alloc memalign size r).1.record b = some x) :
    (x = r ∧ (arena.alloc memalign size r).2.result = some b) ∨ arena.record b = some x := by
  unfold PoolArena.alloc at atB ⊢
  split at atB
  · exact Or.inr atB
  · split at atB
    · exact Or.inr atB
    · rename_i granted _ q ptr _
      by_cases same : b = ptr
      · subst same
        simp only [Function.update_self, Option.some.injEq] at atB
        exact Or.inl ⟨atB.symm, rfl⟩
      · simp only [Function.update_of_ne same] at atB
        exact Or.inr atB

end Carries

section Sessions

theorem udpSessionTouch_sessions (w : UdpWorld) (a : Nat) (now : EvTstamp) :
    (udpSessionTouch w a now).sessions = w.sessions := by
  unfold udpSessionTouch udpNodeTouch
  split
  · rfl
  · split
    · split <;> rfl
    · split <;> rfl
    · rfl

theorem udpSessionTouch_carries (w : UdpWorld) (a : Nat) (now : EvTstamp) :
    UdpCarries new w (udpSessionTouch w a now) :=
  .of_effects [] (by rw [udpSessionTouch_trace, List.append_nil]) rfl (by rw [udpSessionTouch_sessions])

theorem udpSessionFree_carries (cfg : UdpConfig) (w : UdpWorld) (a : Nat) :
    UdpCarries new w (udpSessionFree cfg w a) := by
  unfold udpSessionFree
  split
  · exact .refl
  · rename_i s atA
    refine ⟨_, rfl, rfl, fun b t atB => ?_⟩
    by_cases same : b = a
    · subst same
      simp only [PoolArena.free, Function.update_self] at atB
      cases atB
    · simp only [PoolArena.free, Function.update_of_ne same] at atB
      exact Or.inr ⟨t, atB, rfl, rfl⟩

theorem udpNodeRelease_carries (cfg : UdpConfig) (w : UdpWorld) (nat : UdpNat) (n : Nat)
    (state : UdpEntryState) : UdpCarries new w (udpNodeRelease cfg w nat n state) :=
  .of_effects [.free (.node nat) n] rfl rfl rfl

theorem udpSessionClose_carries (cfg : UdpConfig) (w : UdpWorld) (a : Nat) (state : UdpEntryState) :
    UdpCarries new w (udpSessionClose cfg w a state) := by
  unfold udpSessionClose
  split
  · exact .refl
  · split
    · exact (udpNodeRelease_carries cfg w .fullcone _ state).trans (udpSessionFree_carries cfg _ a)
    · exact (udpNodeRelease_carries cfg w .symmetric _ state).trans (udpSessionFree_carries cfg _ a)
    · exact .refl

/-- A registration writes the session back with its new node. -/
theorem udpNodeRegister_carries (cfg : UdpConfig) (memalign : (p : MemoryPool) → PlacedSlab p) (key : nat.Key)
    (now : EvTstamp) (atA : w.sessions.record a = some s) :
    UdpCarries new w (udpNodeRegister cfg memalign w nat a s key now).1 := by
  unfold udpNodeRegister
  dsimp only
  split
  · exact .of_effects [.alloc (.node nat) _] rfl rfl rfl
  · rename_i n _
    -- the linked session has the flow of the session that was there
    have linked : ∀ w' : UdpWorld,
        w'.sessions = w.sessions.write a { s with node := Function.update s.node nat (some n) } →
        (∃ call, w'.trace = w.trace ++ [.alloc (.node nat) call]) → UdpCarries new w w' := by
      rintro w' sessions ⟨call, trace⟩
      refine ⟨_, trace, rfl, fun b t atB => ?_⟩
      rw [sessions] at atB
      by_cases same : b = a
      · subst same
        simp only [PoolArena.write, Function.update_self] at atB
        cases atB
        exact Or.inr ⟨s, atA, rfl, rfl⟩
      · simp only [PoolArena.write, Function.update_of_ne same] at atB
        exact Or.inr ⟨t, atB, rfl, rfl⟩
    split
    · exact (linked _ rfl ⟨_, rfl⟩).trans (udpSessionClose_carries cfg _ _ .detached)
    · exact linked _ rfl ⟨_, rfl⟩

theorem PoolArena.alloc_at {ρ : Type} {arena : PoolArena ρ}
    {memalign : (p : MemoryPool) → PlacedSlab p} {size : Nat} {r : ρ}
    (got : (arena.alloc memalign size r).2.result = some a) :
    (arena.alloc memalign size r).1.record a = some r := by
  unfold PoolArena.alloc at got ⊢
  split at got
  · cases got
  · split at got
    · cases got
    · cases got
      exact Function.update_self ..

theorem udpSessionCreateOn_carries (serverIdx : Nat) :
    UdpCarries (· = pkt.flow) w
      (udpSessionCreateOn cfg answer w pkt pkt.symmetricKey serverIdx fd now).1 := by
  unfold udpSessionCreateOn
  dsimp only
  generalize mid : UdpWorld.mk _ w.nodes w.tproxy _ = w₁
  have alloced : UdpCarries (· = pkt.flow) w w₁ := by
    rw [← mid]
    refine ⟨_, rfl, rfl, fun b t atB => ?_⟩
    rcases PoolArena.alloc_record _ _ _ _ atB with ⟨rfl, got⟩ | old
    · exact Or.inl ⟨rfl, _, List.mem_cons_self, got⟩
    · exact Or.inr ⟨t, old, rfl, rfl⟩
  split
  · exact alloced.trans (.of_effects [.closed fd] rfl rfl rfl)
  · rename_i a got
    have atA : w₁.sessions.record a = some (pkt.session serverIdx fd) := by
      rw [← mid]
      exact PoolArena.alloc_at got
    split
    · exact alloced.trans (udpSessionFree_carries cfg w₁ a)
    · rw [udpSessionRegister_eq]
      have registered := alloced.trans (udpNodeRegister_carries cfg answer.nodeMemalign
        ((pkt.session serverIdx fd).key pkt.nat) now atA)
      split
      · exact registered
      · exact registered.trans (udpSessionFree_carries cfg _ a)

theorem udpRelayConnectServer_carries (answer : UdpIngressAnswer cfg) (w : UdpWorld) :
    UdpCarries new w (udpRelayConnectServer answer w).1 := by
  unfold udpRelayConnectServer
  split
  · exact .refl
  · split
    · exact .of_effects _ rfl rfl rfl
    · exact .of_effects _ rfl rfl rfl

theorem udpSessionCreate_carries (serverIdx : Nat) :
    UdpCarries (· = pkt.flow) w
      (udpSessionCreate cfg answer w pkt pkt.symmetricKey serverIdx now).1 := by
  unfold udpSessionCreate
  have connected : UdpCarries (· = pkt.flow) w _ := udpRelayConnectServer_carries answer w
  split <;> rename_i run <;> rw [run] at connected
  · exact connected
  · exact connected.trans (udpSessionCreateOn_carries serverIdx)

/-- A packet brings no session but one with its own flow. -/
theorem udpSessionGetOrCreate_carries (cfg : UdpConfig) (answer : UdpIngressAnswer cfg) (w : UdpWorld)
    (pkt : UdpIngress) (now : EvTstamp) :
    UdpCarries (· = pkt.flow) w (udpSessionGetOrCreate cfg answer w pkt pkt.symmetricKey now).1 := by
  unfold udpSessionGetOrCreate
  split
  · exact udpSessionCreate_carries answer.bestUdp
  · rename_i a _
    split
    · exact (udpSessionClose_carries cfg w a .indexed).trans (udpSessionCreate_carries _)
    · exact udpSessionTouch_carries w a now

end Sessions

section Uses

/-- A new session is still there after its registration, whoever had to leave for it. -/
theorem UdpInv.create_on_uses (inv : UdpInv cfg w ⟨none, some fd, deferred⟩) (serverIdx : Nat)
    (freshKey : ∀ m x, (w.nodes pkt.nat).record m = some x → x.key ≠ pkt.key pkt.nat)
    (run : udpSessionCreateOn cfg answer w pkt pkt.symmetricKey serverIdx fd now = (w', some a)) :
    ∃ s, w'.sessions.record a = some s ∧ pkt.Uses s := by
  unfold udpSessionCreateOn at run
  rcases alloced : w.sessions.alloc answer.sessionMemalign cfg.sessionSize (pkt.session serverIdx fd) with
    ⟨after, call⟩
  simp only [alloced] at run
  split at run
  · cases run
  · rename_i b got
    obtain ⟨created, _, record⟩ := inv.session_alloc_some alloced got rfl
    have atB : after.record b = some (pkt.session serverIdx fd) := by
      rw [record, Function.update_self]
    split at run
    · cases run
    · rw [udpSessionRegister_eq] at run
      split at run
      · rename_i ok
        cases run
        have freshKey' : ∀ m x, (w.nodes pkt.nat).record m = some x →
            x.key ≠ (pkt.session serverIdx fd).key pkt.nat := fun m x atM => by
          rw [UdpIngress.session_key]
          exact freshKey m x atM
        have uses : ∀ node, pkt.Uses { pkt.session serverIdx fd with node := node } := fun node =>
          ⟨rfl, (UdpIngress.session_key serverIdx pkt.nat : (pkt.session serverIdx fd).key pkt.nat = _)⟩
        rcases udpNodeRegister_cases answer.nodeMemalign now created atB
            (rfl : _ = pkt.nat) (fun _ => rfl) freshKey' with
          ⟨after', call', _, _, failed⟩ | ⟨m, after', call', _, _, record', core, kept | evicted⟩
        · rw [failed] at ok
          cases ok
        · rw [kept.1]
          exact ⟨_, Function.update_self .., uses _⟩
        · obtain ⟨victim, _, other, y, atVictim, _, closed⟩ := evicted
          obtain ⟨_, t, _, effect⟩ := core.close (n := victim) (x := y) (by
            simp only [UdpWorld.linked, Function.update_self, record', Function.update_of_ne other]
            exact atVictim)
          -- the victim's node is an old one, and no old node refers to the new session
          have apart : a ≠ y.session := fun same => by
            obtain ⟨t, atY, _⟩ := created.links.node pkt.nat victim y atVictim
            simp [UdpHidden.registered, ← same] at atY
          rw [closed, effect]
          simp only [PoolArena.free, Function.update_of_ne apart]
          exact ⟨_, Function.update_self .., uses _⟩
      · cases run

theorem UdpInv.create_uses (inv : UdpInv cfg w ⟨none, none, deferred⟩) (serverIdx : Nat)
    (freshKey : ∀ m x, (w.nodes pkt.nat).record m = some x → x.key ≠ pkt.key pkt.nat)
    (run : udpSessionCreate cfg answer w pkt pkt.symmetricKey serverIdx now = (w', some a)) :
    ∃ s, w'.sessions.record a = some s ∧ pkt.Uses s := by
  unfold udpSessionCreate at run
  have sockets := udpRelayConnectServer_quiet answer w
  rcases connect : udpRelayConnectServer answer w with ⟨w₁, result⟩
  have connected := inv.connect connect
  rw [connect] at run sockets
  cases result with
  | none => cases run
  | some fd =>
    refine connected.create_on_uses serverIdx ?_ run
    rw [sockets.1.nodes]
    exact freshKey

/-- The session that a packet goes through is the one of its key. -/
theorem UdpInv.get_or_create_uses (inv : UdpInv cfg w ⟨none, none, deferred⟩)
    (run : udpSessionGetOrCreate cfg answer w pkt pkt.symmetricKey now = (w', some a)) :
    ∃ s, w'.sessions.record a = some s ∧ pkt.Uses s := by
  unfold udpSessionGetOrCreate at run
  rw [udpSessionLookup_eq] at run
  cases found : udpNodeLookup w pkt.nat (pkt.key pkt.nat) with
  | none =>
    rw [found] at run
    exact inv.create_uses answer.bestUdp (inv.links.lookup_none found) run
  | some b =>
    obtain ⟨n, x, atN, sameKey, rfl⟩ := NatLinks.lookup_some found
    simp only [found] at run
    split at run
    · exact (inv.close atN).create_uses _ (fun m y atM => sameKey ▸ inv.close_freshKey atN m y atM) run
    · cases run
      obtain ⟨s, atX, own, _, keyed⟩ := inv.links.node pkt.nat n x atN
      rw [udpSessionTouch_sessions]
      exact ⟨s, atX, own, keyed.symm.trans sameKey⟩

end Uses

end Tproxy
