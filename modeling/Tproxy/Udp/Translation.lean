import Tproxy.Udp.Actions
import Tproxy.Udp.Delivery

namespace Tproxy

/-- The action is the packet of a client that opens a session with this flow. -/
def UdpAction.Opens (cfg : UdpConfig) (flow : UdpFlow) : UdpAction cfg → Prop
  | .ingress msg _ _ =>
    ∃ pkt, udpIngressParse cfg.fakednsEnabled cfg.domainNameSize msg = some pkt ∧ pkt.flow = flow
  | _ => False

/-- The effects of an action that hand datagrams to the system. -/
def UdpAction.sent (cfg : UdpConfig) (w : UdpWorld) (action : UdpAction cfg) : List UdpEffect :=
  ((udpAct cfg w action).trace.drop w.trace.length).filter UdpEffect.isSend

/-- What each action of a run sends. -/
def udpSent (cfg : UdpConfig) : UdpWorld → List (UdpAction cfg) → List (List UdpEffect)
  | _, [] => []
  | w, action :: later => action.sent cfg w :: udpSent cfg (udpAct cfg w action) later

/-- The session `s` at `a` was opened by a client's packet in `past`, and from that
packet on it has been there, with its client and its socket. -/
def UdpOpened (cfg : UdpConfig) (w₀ : UdpWorld) (past : List (UdpAction cfg)) (a : Nat) (s : UdpSession) :
    Prop :=
  ∃ earlier first between, past = earlier ++ first :: between ∧ first.Opens cfg s.flow ∧
    UdpHandedOut a ((udpActs cfg w₀ (earlier ++ [first])).trace.drop (udpActs cfg w₀ earlier).trace.length) ∧
    ∀ mid later, between = mid ++ later →
      ∃ t, (udpActs cfg w₀ (earlier ++ first :: mid)).sessions.record a = some t ∧ t.Same s

/-- What an action after `past` sends, and why. A packet goes once, sealed for its target,
to the server, through the socket of its own session alone, or it is dropped. A batch of
replies goes to the client that opened the session, each datagram once and from the entry
of its source. -/
inductive UdpSends (cfg : UdpConfig) (w₀ : UdpWorld) (past : List (UdpAction cfg)) :
    UdpAction cfg → List UdpEffect → Prop
  | dropped {msg answer now} :
      (∀ pkt, udpIngressParse cfg.fakednsEnabled cfg.domainNameSize msg = some pkt →
        (udpSessionGetOrCreate cfg answer (udpActs cfg w₀ past) pkt pkt.symmetricKey now).2 = none ∨
          answer.sealed pkt.ssTarget msg.payload = none) →
      UdpSends cfg w₀ past (.ingress msg answer now) []
  | forwarded {msg answer now pkt data a s} :
      udpIngressParse cfg.fakednsEnabled cfg.domainNameSize msg = some pkt →
      answer.sealed pkt.ssTarget msg.payload = some data →
      (udpActs cfg w₀ (past ++ [.ingress msg answer now])).sessions.record a = some s → pkt.Uses s →
      (∀ b t, (udpActs cfg w₀ (past ++ [.ingress msg answer now])).sessions.record b = some t →
        t.serverFd = s.serverFd → b = a) →
      UdpSends cfg w₀ past (.ingress msg answer now) [.send s.serverFd data]
  | ignored {a packets now} :
      (udpActs cfg w₀ past).sessions.record a = none ∨ packets = [] →
      UdpSends cfg w₀ past (.serverReply a packets now) []
  | returned {a packets now s msgs} {calls : List (UdpTproxyEntry × List UdpClientMsg)} :
      (udpActs cfg w₀ past).sessions.record a = some s → UdpOpened cfg w₀ past a s →
      (∀ call ∈ calls, ∃ n, (udpReplyBatch cfg (udpActs cfg w₀ past) a s packets now
        udpBatchSize).world.tproxy.record n = some call.1) →
      (calls.flatMap fun call => call.2.map fun msg => (call.1.key, msg)).Perm msgs →
      msgs.Sublist ((packets.take udpBatchSize).filterMap (udpReplyMsg s)) →
      UdpSends cfg w₀ past (.serverReply a packets now)
        (calls.map fun call => .sendmmsg call.1.udpSockfd call.2)
  | gcTick {now} : UdpSends cfg w₀ past (.gcTick now) []
  | closeAll : UdpSends cfg w₀ past .closeAll []

variable {cfg : UdpConfig} {new : UdpFlow → Prop} {w w' w'' w₀ : UdpWorld} {now : EvTstamp}
  {past : List (UdpAction cfg)} {action : UdpAction cfg} {a : Nat} {s t : UdpSession}
  {datagrams : List UdpEffect}

section Sweeps

theorem udpGcOnTick_carries (cfg : UdpConfig) (w : UdpWorld) (now : EvTstamp) :
    UdpCarries new w (udpGcOnTick cfg w now) := by
  have sessions : ∀ w nat timeout, UdpCarries new w (udpGcSweepSessions cfg nat now timeout w) :=
    fun w nat timeout => UdpCarries.foldl (fun w cur => by
      unfold udpGcVisitSession
      split
      · exact .refl
      · split
        · exact udpSessionClose_carries cfg w _ .indexed
        · exact .refl) _ w
  have entries : ∀ w timeout, UdpCarries new w (udpGcSweepTproxyEntries cfg now timeout w) :=
    fun w timeout => UdpCarries.foldl (fun w cur => by
      unfold udpGcVisitTproxy
      split
      · exact .refl
      · split
        · exact udpTproxyEntryClose_carries cfg w cur
        · exact .refl) _ w
  exact ((sessions w .fullcone _).trans (sessions _ .symmetric _)).trans (entries _ _)

theorem udpProxyCloseAllSessions_carries (cfg : UdpConfig) (w : UdpWorld) :
    UdpCarries new w (udpProxyCloseAllSessions cfg w) := by
  have nodes : ∀ w nat, UdpCarries new w (udpNodeClear cfg nat w) :=
    fun w nat => UdpCarries.foldl (fun w cur => by
      unfold udpSessionClearCb
      split
      · exact .refl
      · exact udpSessionClose_carries cfg w _ .indexed) _ w
  have entries : ∀ w, UdpCarries new w (udpTproxyEntryClear cfg w) :=
    fun w => UdpCarries.foldl (udpTproxyEntryClose_carries cfg) _ w
  exact ((nodes w .fullcone).trans (nodes _ .symmetric)).trans (entries _)

end Sweeps

section Retains

/-- The trace grew, and every session that is live afterwards was there before, or its
block was handed out in between and it has a `new` flow. -/
def UdpRetains (new : UdpFlow → Prop) (w w' : UdpWorld) : Prop :=
  ∃ effects, w'.trace = w.trace ++ effects ∧ ∀ a s, w'.sessions.record a = some s →
    (new s.flow ∧ UdpHandedOut a effects) ∨ ∃ t, w.sessions.record a = some t ∧ t.Same s

theorem UdpCarries.retains (carries : UdpCarries new w w') : UdpRetains new w w' := by
  obtain ⟨effects, trace, _, old⟩ := carries.carried
  exact ⟨effects, trace, old⟩

theorem UdpRetains.emit (w : UdpWorld) (effects : List UdpEffect) : UdpRetains new w (w.emit effects) :=
  ⟨effects, rfl, fun _ s atA => Or.inr ⟨s, atA, rfl, rfl⟩⟩

theorem UdpRetains.refl : UdpRetains new w w :=
  ⟨[], (List.append_nil _).symm, fun _ s atA => Or.inr ⟨s, atA, rfl, rfl⟩⟩

theorem UdpSession.Same.trans {r s t : UdpSession} (first : r.Same s) (second : s.Same t) : r.Same t :=
  ⟨first.1.trans second.1, first.2.trans second.2⟩

theorem UdpRetains.trans (first : UdpRetains new w w') (second : UdpRetains new w' w'') :
    UdpRetains new w w'' := by
  obtain ⟨before, trace, old⟩ := first
  obtain ⟨after, trace', later⟩ := second
  refine ⟨before ++ after, by rw [trace', trace, List.append_assoc], fun a s atA => ?_⟩
  rcases later a s atA with ⟨made, handed⟩ | ⟨t, atA', same⟩
  · exact Or.inl ⟨made, handed.imp fun _ => And.imp_left (List.mem_append_right before)⟩
  · rcases old a t atA' with ⟨made, handed⟩ | ⟨r, atA'', same'⟩
    · exact Or.inl ⟨same.1 ▸ made, handed.imp fun _ => And.imp_left (List.mem_append_left after)⟩
    · exact Or.inr ⟨r, atA'', same'.trans same⟩

theorem UdpRetains.mono {wider : UdpFlow → Prop} (retains : UdpRetains new w w')
    (implies : ∀ flow, new flow → wider flow) : UdpRetains wider w w' := by
  obtain ⟨effects, trace, old⟩ := retains
  exact ⟨effects, trace, fun a s atA => (old a s atA).imp_left (And.imp_left (implies s.flow))⟩

/-- A batch of replies leaves every session as it is. -/
theorem udpRelayOnServerReply_retains (cfg : UdpConfig) (w : UdpWorld) (a : Nat)
    (packets : List UdpReplyPacket) (now : EvTstamp) :
    UdpRetains new w (udpRelayOnServerReply cfg w a packets now) := by
  unfold udpRelayOnServerReply
  split
  · exact .refl
  · exact .refl
  · rename_i s _ _
    dsimp only
    have steps : UdpCarries new _ _ :=
      udpReplySteps_carries cfg s now (packets.take udpBatchSize) ⟨udpSessionTouch w a now, [], []⟩
    generalize (packets.take udpBatchSize).foldl (udpReplyStep cfg s now) _ = batch at steps
    have touched : UdpCarries new w _ := udpSessionTouch_carries w a now
    have freed : UdpCarries new _ _ := UdpCarries.foldl (udpTproxyEntryFree_carries cfg)
      batch.deferred (udpTproxyFlushClientSends batch.world batch.sends)
    exact ((touched.trans steps).retains.trans (.emit batch.world _)).trans freed.retains

/-- No other session has the socket of a session. -/
theorem UdpInv.own_socket (inv : UdpInv cfg w .idle) {a b : Nat} {s t : UdpSession}
    (atA : w.sessions.record a = some s) (atB : w.sessions.record b = some t)
    (same : t.serverFd = s.serverFd) : b = a := by
  have owned := inv.ledger.fds
  rw [show UdpHidden.idle.fd = none from rfl, update_pending_none] at owned
  have holdsA : w.fdOf (.session a) = some s.serverFd := by
    simp only [UdpWorld.fdOf, atA, Option.map_some]
  have holdsB : w.fdOf (.session b) = some s.serverFd := by
    simp only [UdpWorld.fdOf, atB, Option.map_some, same]
  exact UdpFdOwner.session.inj (owned.injective _ _ _ holdsB holdsA)

/-- A packet of a client sends nothing, or it goes out through the socket of its session. -/
theorem UdpInv.ingress_cases (inv : UdpInv cfg w .idle) (msg : UdpIngressMsg) (answer : UdpIngressAnswer cfg)
    (now : EvTstamp) :
    (UdpCarries ((UdpAction.ingress msg answer now).Opens cfg ·) w
        (udpProxyHandleIngress cfg answer w msg now) ∧
      ∀ pkt, udpIngressParse cfg.fakednsEnabled cfg.domainNameSize msg = some pkt →
        (udpSessionGetOrCreate cfg answer w pkt pkt.symmetricKey now).2 = none ∨
          answer.sealed pkt.ssTarget msg.payload = none) ∨
      ∃ pkt data a s w₁, udpIngressParse cfg.fakednsEnabled cfg.domainNameSize msg = some pkt ∧
        answer.sealed pkt.ssTarget msg.payload = some data ∧
        UdpCarries ((UdpAction.ingress msg answer now).Opens cfg ·) w w₁ ∧ UdpInv cfg w₁ .idle ∧
        w₁.sessions.record a = some s ∧ pkt.Uses s ∧
        udpProxyHandleIngress cfg answer w msg now = w₁.emit [.send s.serverFd data] := by
  unfold udpProxyHandleIngress
  cases parsed : udpIngressParse cfg.fakednsEnabled cfg.domainNameSize msg with
  | none => exact Or.inl ⟨.refl, fun _ found => by cases found⟩
  | some pkt =>
    have opens : ∀ flow, flow = pkt.flow → (UdpAction.ingress msg answer now).Opens cfg flow :=
      fun flow same => ⟨pkt, parsed, same.symm⟩
    have carries := (udpSessionGetOrCreate_carries cfg answer w pkt now).mono opens
    have kept := UdpInv.get_or_create answer now inv (udpIngressParse_fakedns parsed)
    rcases run : udpSessionGetOrCreate cfg answer w pkt pkt.symmetricKey now with ⟨w₁, result⟩
    rw [run] at carries kept
    simp only [run]
    cases result with
    | none =>
      refine Or.inl ⟨carries, fun found same => Or.inl ?_⟩
      cases same
      rw [run]
    | some a =>
      obtain ⟨s, atA, uses⟩ := inv.get_or_create_uses run
      simp only [udpRelaySendToServer, atA]
      cases made : answer.sealed pkt.ssTarget msg.payload with
      | none =>
        refine Or.inl ⟨carries, fun found same => Or.inr ?_⟩
        cases same
        exact made
      | some data => exact Or.inr ⟨pkt, data, a, s, w₁, rfl, made, carries, kept, atA, uses, rfl⟩

/-- An action brings no session but one that it opens. -/
theorem UdpInv.act_retains (inv : UdpInv cfg w .idle) (action : UdpAction cfg) :
    UdpRetains (action.Opens cfg ·) w (udpAct cfg w action) := by
  cases action with
  | ingress msg answer now =>
    change UdpRetains _ w (udpProxyHandleIngress cfg answer w msg now)
    rcases inv.ingress_cases msg answer now with
      ⟨carries, _⟩ | ⟨_, data, _, s, w₁, _, _, carries, _, _, _, forwards⟩
    · exact carries.retains
    · rw [forwards]
      exact carries.retains.trans (.emit w₁ _)
  | serverReply a packets now => exact udpRelayOnServerReply_retains cfg w a packets now
  | gcTick now => exact (udpGcOnTick_carries cfg w now).retains
  | closeAll => exact (udpProxyCloseAllSessions_carries cfg w).retains

/-- Every session of a run was opened by a packet of its client. -/
theorem UdpInv.opened (inv : UdpInv cfg w₀ .idle) (noSession : ∀ a, w₀.sessions.record a = none)
    (past : List (UdpAction cfg)) (atA : (udpActs cfg w₀ past).sessions.record a = some s) :
    UdpOpened cfg w₀ past a s := by
  induction past using List.reverseRecOn generalizing s with
  | nil => cases (noSession a).symm.trans atA
  | append_singleton past action ih =>
    obtain ⟨effects, trace, old⟩ := (inv.acts past).act_retains action
    rw [← udpActs_snoc] at trace old
    rcases old a s atA with ⟨opens, handed⟩ | ⟨t, before, same⟩
    · refine ⟨past, action, [], rfl, opens, ?_, fun mid later split => ?_⟩
      · rw [trace, List.drop_left]
        exact handed
      · obtain ⟨rfl, rfl⟩ := List.nil_eq_append_iff.mp split
        exact ⟨s, atA, rfl, rfl⟩
    · obtain ⟨earlier, first, between, rfl, opens, handed, stays⟩ := ih before
      refine ⟨earlier, first, between ++ [action], by rw [List.append_assoc, List.cons_append],
        same.1 ▸ opens, handed, fun mid later split => ?_⟩
      rcases List.append_eq_append_iff.mp split with ⟨more, rfl, last⟩ | ⟨more, rfl, _⟩
      · -- the session after `action`, or the one before it
        rcases List.singleton_eq_append_iff.mp last with ⟨rfl, rfl⟩ | ⟨rfl, rfl⟩
        · rw [List.append_nil]
          exact ⟨t, before, same⟩
        · rw [← List.cons_append, ← List.append_assoc]
          exact ⟨s, atA, rfl, rfl⟩
      · obtain ⟨r, there, same'⟩ := stays mid more rfl
        exact ⟨r, there, same'.trans same⟩

end Retains

section Steps

theorem UdpRetains.sent (retains : UdpRetains new w (udpAct cfg w action))
    (sends : (udpAct cfg w action).trace.filter UdpEffect.isSend =
      w.trace.filter UdpEffect.isSend ++ datagrams) : action.sent cfg w = datagrams := by
  obtain ⟨effects, trace, _⟩ := retains
  rw [trace, List.filter_append] at sends
  rw [UdpAction.sent, trace, List.drop_left]
  exact List.append_cancel_left sends

theorem UdpAction.sent_unchanged (same : udpAct cfg w action = w) : action.sent cfg w = [] := by
  rw [UdpAction.sent, same, List.drop_length]
  rfl

theorem UdpCarries.sent_nil (carries : UdpCarries new w (udpAct cfg w action)) :
    action.sent cfg w = [] :=
  carries.retains.sent (by rw [carries.sends, List.append_nil])

theorem UdpInv.ingress_sends (inv : UdpInv cfg (udpActs cfg w₀ past) .idle) (msg : UdpIngressMsg)
    (answer : UdpIngressAnswer cfg) (now : EvTstamp) :
    UdpSends cfg w₀ past (.ingress msg answer now)
      ((UdpAction.ingress msg answer now).sent cfg (udpActs cfg w₀ past)) := by
  have retains := inv.act_retains (.ingress msg answer now)
  have step : udpAct cfg (udpActs cfg w₀ past) (.ingress msg answer now) =
    udpProxyHandleIngress cfg answer (udpActs cfg w₀ past) msg now := rfl
  rcases inv.ingress_cases msg answer now with
    ⟨carries, reason⟩ | ⟨pkt, data, a, s, w₁, parsed, made, carries, kept, atA, uses, forwards⟩
  · rw [← step] at carries
    rw [carries.sent_nil]
    exact .dropped reason
  · rw [forwards] at step
    have once : (UdpAction.ingress msg answer now).sent cfg (udpActs cfg w₀ past) =
        [.send s.serverFd data] := by
      refine retains.sent ?_
      rw [step, UdpWorld.emit, List.filter_append, carries.sends]
      rfl
    rw [once]
    have after : (udpActs cfg w₀ (past ++ [.ingress msg answer now])).sessions = w₁.sessions := by
      rw [udpActs_snoc, step]
      rfl
    refine .forwarded parsed made (after ▸ atA) uses fun b t atB same => ?_
    rw [after] at atB
    exact UdpInv.own_socket kept atA atB same

theorem UdpInv.server_reply_sends (inv : UdpInv cfg (udpActs cfg w₀ past) .idle)
    (opened : ∀ a s, (udpActs cfg w₀ past).sessions.record a = some s → UdpOpened cfg w₀ past a s)
    (a : Nat) (packets : List UdpReplyPacket) (now : EvTstamp) :
    UdpSends cfg w₀ past (.serverReply a packets now)
      ((UdpAction.serverReply a packets now).sent cfg (udpActs cfg w₀ past)) := by
  have retains := inv.act_retains (.serverReply a packets now)
  have step : udpAct cfg (udpActs cfg w₀ past) (.serverReply a packets now) =
    udpRelayOnServerReply cfg (udpActs cfg w₀ past) a packets now := rfl
  have cut : udpRelayOnServerReply cfg (udpActs cfg w₀ past) a packets now =
      udpRelayOnServerReply cfg (udpActs cfg w₀ past) a (packets.take udpBatchSize) now := by
    simp only [udpRelayOnServerReply, List.take_take, Nat.min_self]
  cases atA : (udpActs cfg w₀ past).sessions.record a with
  | none =>
    simp only [udpRelayOnServerReply, atA] at step
    rw [UdpAction.sent_unchanged step]
    exact .ignored (Or.inl atA)
  | some s =>
    by_cases received : packets = []
    · subst received
      simp only [udpRelayOnServerReply, atA, List.take_nil] at step
      rw [UdpAction.sent_unchanged step]
      exact .ignored (Or.inr rfl)
    · have small : (packets.take udpBatchSize).length ≤ udpBatchSize := List.length_take_le ..
      have nonempty : packets.take udpBatchSize ≠ [] := by
        simp only [ne_eq, List.take_eq_nil_iff, received, or_false]
        decide
      obtain ⟨calls, msgs, sends, live, perm, sublist, _⟩ := inv.reply_delivers atA nonempty small now
      have last : ∀ w, udpReplyBatch cfg w a s (packets.take udpBatchSize) now
          (packets.take udpBatchSize).length = udpReplyBatch cfg w a s packets now udpBatchSize :=
        fun w => by simp only [udpReplyBatch, List.take_length]
      rw [← cut, ← step] at sends
      rw [retains.sent sends]
      exact .returned atA (opened a s atA) (fun call listed => last _ ▸ live call listed) perm sublist

theorem UdpInv.act_sends (inv : UdpInv cfg (udpActs cfg w₀ past) .idle)
    (opened : ∀ a s, (udpActs cfg w₀ past).sessions.record a = some s → UdpOpened cfg w₀ past a s)
    (action : UdpAction cfg) : UdpSends cfg w₀ past action (action.sent cfg (udpActs cfg w₀ past)) := by
  cases action with
  | ingress msg answer now => exact inv.ingress_sends msg answer now
  | serverReply a packets now => exact inv.server_reply_sends opened a packets now
  | gcTick now =>
    have carries : UdpCarries (fun _ => False) (udpActs cfg w₀ past)
      (udpAct cfg (udpActs cfg w₀ past) (.gcTick now)) := udpGcOnTick_carries cfg _ now
    rw [carries.sent_nil]
    exact .gcTick
  | closeAll =>
    have carries : UdpCarries (fun _ => False) (udpActs cfg w₀ past)
      (udpAct cfg (udpActs cfg w₀ past) .closeAll) := udpProxyCloseAllSessions_carries cfg _
    rw [carries.sent_nil]
    exact .closeAll

/-- A run sends what its actions send, in their order. -/
theorem UdpInv.acts_sent (inv : UdpInv cfg w .idle) (actions : List (UdpAction cfg)) :
    (udpActs cfg w actions).trace.filter UdpEffect.isSend =
      w.trace.filter UdpEffect.isSend ++ (udpSent cfg w actions).flatten := by
  induction actions generalizing w with
  | nil => exact (List.append_nil _).symm
  | cons action actions ih =>
    obtain ⟨effects, trace, _⟩ := inv.act_retains action
    have first : (udpAct cfg w action).trace.filter UdpEffect.isSend =
        w.trace.filter UdpEffect.isSend ++ action.sent cfg w := by
      rw [UdpAction.sent, trace, List.drop_left, List.filter_append]
    rw [udpSent, List.flatten_cons, ← List.append_assoc, ← first]
    exact ih (inv.act action)

end Steps

/-- Whatever a UDP worker sends in a run, it sends for a reason: each datagram to a
server is a client's own packet on the socket of its own session, and each datagram to a
client is a server's reply in a session that this client opened, from its right source. -/
theorem udp_translated {answer : (pool : UdpPool) → UdpPoolAnswer cfg pool}
    (created : udpWorldCreate cfg answer = some w₀) (events : List (UdpEvent cfg)) :
    (udpRun cfg w₀ events).trace.filter UdpEffect.isSend =
        (udpSent cfg w₀ (events.flatMap UdpEvent.actions)).flatten ∧
      ∀ past action later, events.flatMap UdpEvent.actions = past ++ action :: later →
        UdpSends cfg w₀ past action (action.sent cfg (udpActs cfg w₀ past)) := by
  have start := udpWorldCreate_inv created
  obtain ⟨silent, noSession, _⟩ := udpWorldCreate_empty created
  refine ⟨?_, fun past action later _ => ?_⟩
  · have sends := start.acts_sent (events.flatMap UdpEvent.actions)
    rwa [silent, List.filter_nil, List.nil_append, ← udpRun_eq_acts] at sends
  · exact (start.acts past).act_sends (fun a s atA => start.opened noSession past atA) action

/-- The packets of two clients, and the replies to the second one. -/
theorem udp_translated_replies : ∃ events,
    (udpRun udpTinyConfig udpTinyStart events).trace.filter UdpEffect.isSend =
        (udpSent udpTinyConfig udpTinyStart (events.flatMap UdpEvent.actions)).flatten ∧
      (udpSent udpTinyConfig udpTinyStart (events.flatMap UdpEvent.actions)).map List.length = [1, 1, 1] ∧
      ∀ past action later, events.flatMap UdpEvent.actions = past ++ action :: later →
        UdpSends udpTinyConfig udpTinyStart past action
          (action.sent udpTinyConfig (udpActs udpTinyConfig udpTinyStart past)) := by
  let events : List (UdpEvent udpTinyConfig) :=
    [.recvmsg [udpTinyPacket 1 none, udpTinyPacket 2 none] 5,
      .serverReply udpTinySession [⟨some (.ipv4 53 [10, 0, 0, 9], [1]), udpTinySocket, true,
        fun _ => ⟨none, fun _ refused => by cases refused⟩⟩] 6]
  obtain ⟨whole, each⟩ := udp_translated (Option.some_get _).symm events
  exact ⟨events, whole, by decide +kernel, each⟩

end Tproxy
