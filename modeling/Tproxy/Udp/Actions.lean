import Tproxy.Udp.Sweep

namespace Tproxy

/-- What the callbacks do, with a batch of client packets taken apart. -/
inductive UdpAction (cfg : UdpConfig)
  | ingress (msg : UdpIngressMsg) (answer : UdpIngressAnswer cfg) (now : EvTstamp)
  | serverReply (session : Nat) (packets : List UdpReplyPacket) (now : EvTstamp)
  | gcTick (now : EvTstamp)
  | closeAll

def udpAct (cfg : UdpConfig) (w : UdpWorld) : UdpAction cfg → UdpWorld
  | .ingress msg answer now => udpProxyHandleIngress cfg answer w msg now
  | .serverReply session packets now => udpRelayOnServerReply cfg w session packets now
  | .gcTick now => udpGcOnTick cfg w now
  | .closeAll => udpProxyCloseAllSessions cfg w

def udpActs (cfg : UdpConfig) (w : UdpWorld) (actions : List (UdpAction cfg)) : UdpWorld :=
  actions.foldl (udpAct cfg) w

def UdpEvent.actions {cfg : UdpConfig} : UdpEvent cfg → List (UdpAction cfg)
  | .recvmsg packets now => (packets.take udpBatchSize).map fun packet => .ingress packet.1 packet.2 now
  | .serverReply session packets now => [.serverReply session packets now]
  | .gcTick now => [.gcTick now]
  | .closeAll => [.closeAll]

/-- The session that an action creates or uses again, with the loop time. -/
def UdpAction.use (cfg : UdpConfig) (w : UdpWorld) : UdpAction cfg → Option (Nat × EvTstamp)
  | .ingress msg answer now =>
    match udpIngressParse cfg.fakednsEnabled cfg.domainNameSize msg with
    | none => none
    | some pkt =>
      (udpSessionGetOrCreate cfg answer w pkt pkt.symmetricKey now).2.map fun a => (a, now)
  | .serverReply session packets now =>
    if (w.sessions.record session).isSome ∧ packets ≠ [] then some (session, now) else none
  | .gcTick _ => none
  | .closeAll => none

/-- After the actions from `w₀`, the session at `a` was last created or used
again at `now`. -/
inductive UdpLastUsed (cfg : UdpConfig) (w₀ : UdpWorld) : List (UdpAction cfg) → Nat → EvTstamp → Prop
  | used {past action a now} : action.use cfg (udpActs cfg w₀ past) = some (a, now) →
      UdpLastUsed cfg w₀ (past ++ [action]) a now
  | kept {past action a now} : UdpLastUsed cfg w₀ past a now →
      (∀ later, action.use cfg (udpActs cfg w₀ past) ≠ some (a, later)) →
      UdpLastUsed cfg w₀ (past ++ [action]) a now

variable {cfg : UdpConfig} {w w' w'' : UdpWorld}

@[simp] theorem udpActs_snoc (cfg : UdpConfig) (w : UdpWorld) (past : List (UdpAction cfg))
    (action : UdpAction cfg) : udpActs cfg w (past ++ [action]) = udpAct cfg (udpActs cfg w past) action := by
  simp only [udpActs, List.foldl_append, List.foldl_cons, List.foldl_nil]

theorem udpStep_eq_acts (cfg : UdpConfig) (w : UdpWorld) (event : UdpEvent cfg) :
    udpStep cfg w event = udpActs cfg w event.actions := by
  cases event with
  | recvmsg packets now =>
    simp only [udpStep, udpProxyOnRecvmsg, udpActs, UdpEvent.actions, List.foldl_map]
    rfl
  | serverReply session packets now => rfl
  | gcTick now => rfl
  | closeAll => rfl

/-- Every run of the event loop is a run of actions. -/
theorem udpRun_eq_acts (cfg : UdpConfig) (w : UdpWorld) (events : List (UdpEvent cfg)) :
    udpRun cfg w events = udpActs cfg w (events.flatMap UdpEvent.actions) := by
  induction events generalizing w with
  | nil => rfl
  | cons event events ih =>
    have first := udpStep_eq_acts cfg w event
    simp only [udpRun, udpActs] at ih first ⊢
    rw [List.foldl_cons, ih, first, List.flatMap_cons, List.foldl_append]

theorem UdpInv.act (inv : UdpInv cfg w .idle) (action : UdpAction cfg) :
    UdpInv cfg (udpAct cfg w action) .idle := by
  cases action with
  | ingress msg answer now => exact inv.handle_ingress answer msg now
  | serverReply session packets now => exact inv.server_reply session packets now
  | gcTick now => exact inv.step (.gcTick now)
  | closeAll => exact inv.step .closeAll

theorem UdpInv.acts (inv : UdpInv cfg w .idle) (actions : List (UdpAction cfg)) :
    UdpInv cfg (udpActs cfg w actions) .idle := by
  induction actions generalizing w with
  | nil => exact inv
  | cons action actions ih => exact ih (inv.act action)

/-- Every node is as before, except that the node of the session in `use` has
its time, and some nodes may be gone. -/
def UdpUsed (use : Option (Nat × EvTstamp)) (w w' : UdpWorld) : Prop :=
  ∀ nat n x, (w'.nodes nat).record n = some x → use = some (x.session, x.lastActive) ∨
    (∀ now, use ≠ some (x.session, now)) ∧ (w.nodes nat).record n = some x

theorem UdpUsed.of_records (same : ∀ nat, (w'.nodes nat).record = (w.nodes nat).record) :
    UdpUsed none w w' := by
  intro nat n x atN
  rw [same] at atN
  exact Or.inr ⟨fun _ => by simp, atN⟩

theorem UdpUsed.refl : UdpUsed none w w :=
  .of_records fun _ => rfl

theorem UdpUsed.trans {use : Option (Nat × EvTstamp)} (first : UdpUsed none w w')
    (second : UdpUsed use w' w'') : UdpUsed use w w'' := by
  intro nat n x atN
  refine (second nat n x atN).imp_right fun ⟨other, later⟩ => ⟨other, ?_⟩
  exact ((first nat n x later).resolve_left (by simp)).2

/-- After a use, changes that only take nodes away. -/
theorem UdpUsed.trans_none {use : Option (Nat × EvTstamp)} (first : UdpUsed use w w')
    (second : UdpUsed none w' w'') : UdpUsed use w w'' := by
  intro nat n x atN
  exact first nat n x ((second nat n x atN).resolve_left (by simp)).2

/-- The trace grew by effects that free no session but those of `freed`. -/
def UdpFrees (freed : Nat → Prop) (w w' : UdpWorld) : Prop :=
  ∃ effects, w'.trace = w.trace ++ effects ∧ ∀ a, .free .session a ∈ effects → freed a

theorem UdpFrees.of_effects {freed : Nat → Prop} (effects : List UdpEffect)
    (trace : w'.trace = w.trace ++ effects) (none : ∀ a, .free .session a ∉ effects) :
    UdpFrees freed w w' :=
  ⟨effects, trace, fun a member => absurd member (none a)⟩

theorem UdpFrees.refl {freed : Nat → Prop} (same : w'.trace = w.trace) : UdpFrees freed w w' :=
  .of_effects [] (by rw [same, List.append_nil]) fun _ => List.not_mem_nil

theorem UdpFrees.trans {freed : Nat → Prop} (first : UdpFrees freed w w')
    (second : UdpFrees freed w' w'') : UdpFrees freed w w'' := by
  obtain ⟨before, trace, allowed⟩ := first
  obtain ⟨after, trace', allowed'⟩ := second
  refine ⟨before ++ after, by rw [trace', trace, List.append_assoc], fun a member => ?_⟩
  exact (List.mem_append.mp member).elim (allowed a) (allowed' a)

theorem UdpFrees.mono {freed freed' : Nat → Prop} (frees : UdpFrees freed w w')
    (wider : ∀ a, freed a → freed' a) : UdpFrees freed' w w' := by
  obtain ⟨effects, trace, allowed⟩ := frees
  exact ⟨effects, trace, fun a member => wider a (allowed a member)⟩

/-- The session tables stayed as they are, and no session was freed. -/
structure UdpQuiet (w w' : UdpWorld) : Prop where
  nodes : w'.nodes = w.nodes
  frees : UdpFrees (fun _ => False) w w'

theorem UdpQuiet.refl : UdpQuiet w w :=
  ⟨rfl, .refl rfl⟩

theorem UdpQuiet.of_effects (effects : List UdpEffect) (nodes : w'.nodes = w.nodes)
    (trace : w'.trace = w.trace ++ effects) (none : ∀ a, .free .session a ∉ effects) : UdpQuiet w w' :=
  ⟨nodes, .of_effects effects trace none⟩

theorem UdpQuiet.trans (first : UdpQuiet w w') (second : UdpQuiet w' w'') : UdpQuiet w w'' :=
  ⟨second.nodes.trans first.nodes, first.frees.trans second.frees⟩

theorem UdpQuiet.used (quiet : UdpQuiet w w') : UdpUsed none w w' :=
  .of_records fun nat => by rw [quiet.nodes]

theorem UdpQuiet.frees_any (quiet : UdpQuiet w w') (freed : Nat → Prop) : UdpFrees freed w w' :=
  quiet.frees.mono fun _ => False.elim

/-- A loop of quiet rounds. -/
theorem UdpQuiet.foldl {ι : Type} {round : UdpWorld → ι → UdpWorld}
    (quiet : ∀ w i, UdpQuiet w (round w i)) (rounds : List ι) (w : UdpWorld) :
    UdpQuiet w (rounds.foldl round w) := by
  induction rounds generalizing w with
  | nil => exact .refl
  | cons i rounds ih => exact (quiet w i).trans (ih (round w i))

end Tproxy
