import Tproxy.Tcp.ThreadServe

namespace Tproxy

variable {S : Ss2022} {cfg : TcpConfig} {w w₀ w' : TcpThread S} {order : List Nat} {p q : Nat}
  {b c : TcpBlock S} {on : TcpWatcher → Bool} {arena : PoolArena (TcpBlock S)} {pending : Option Nat}
  {fd : Nat}

section Create

/-- The pool of the sessions may change, but not the sessions. -/
theorem TcpSettled.samePool (settled : TcpSettled cfg pending order w)
    (same : arena.record = w.sessionPool.record)
    (holds : arena.Holds cfg.sessionSize tcpMaxBlocks order.length) :
    TcpSettled cfg pending order { w with sessionPool := arena } := by
  have field (f : TcpBlock S → Option Nat) : TcpThread.field { w with sessionPool := arena } f = w.field f :=
    funext fun q => congrArg (Option.bind · f) (congrFun same q)
  obtain ⟨⟨listed, buffers, fds, watched⟩, phases⟩ := settled
  refine ⟨⟨⟨listed.nodup, fun q => ?_, ?_, holds⟩, ?_, ⟨fds.log, ?_, fun q c live => ?_⟩, fun q k on => ?_⟩,
    fun q c live => phases q c (same ▸ live)⟩
  · rw [← listed.live q, same]
  · rw [field, field]
    exact listed.linked
  · unfold TcpBuffers
    rw [field]
    exact buffers
  · have owner : TcpThread.fdOf { w with sessionPool := arena } pending = w.fdOf pending := by
      funext o
      rcases o with none | ⟨q, side⟩
      · rfl
      · exact congrFun (field _) q
    rw [owner]
    exact fds.owned
  · exact fds.client q c (same ▸ live)
  · obtain ⟨b, live, server⟩ := watched q k on
    exact ⟨b, same ▸ live, server⟩

/-- The session of the client `fd` is in the block at `p` and first in the list. -/
structure TcpLinked (cfg : TcpConfig) (p fd : Nat) (s : TcpSession S (TcpHandshake S)) (b : TcpBlock S)
    (order : List Nat) (w w' : TcpThread S) : Prop where
  elsewhere : TcpElsewhere p w w'
  started : w'.started = w.started
  fds : w'.fds = w.fds
  relayInPool : w'.relayInPool = w.relayInPool
  listed : TcpListed cfg w' (p :: order)
  block : w'.sessionPool.record p = some { b with
    half := .handshake s, clientFd := some fd, prev := none, next := w.sessionHead }

theorem TcpListed.link_meets {Q : Unit → TcpThread S → Prop} {s : TcpSession S (TcpHandshake S)}
    (listed : TcpListed cfg w order) (free : w.sessionPool.record p = none)
    (filled : arena.record = Function.update w.sessionPool.record p (some b))
    (holds : arena.Holds cfg.sessionSize tcpMaxBlocks (order.length + 1))
    (next : ∀ w', TcpLinked cfg p fd s b order w w' → Q () w') :
    (TcpThread.tcpSessionLink p fd s).Meets { w with sessionPool := arena } Q := by
  have outside : p ∉ order := fun member => by
    have live := (listed.live p).mpr member
    rw [free] at live
    cases live
  have distinct (q : Nat) (member : q ∈ order) : q ≠ p := fun same => outside (same ▸ member)
  have live₁ : arena.record p = some b := by rw [filled, Function.update_self]
  refine Program.meets_bind.mpr (TcpThread.block_meets live₁ ?_)
  refine Program.meets_bind.mpr (Program.meets_of_run rfl ?_)
  refine Program.meets_bind.mpr (TcpThread.setBlock_meets live₁ ?_)
  generalize made : { b with
    half := TcpHalf.handshake s, clientFd := some fd, prev := none, next := w.sessionHead } = b₁
  have apart₂ (q : Nat) (apart : q ≠ p) : (arena.write p b₁).record q = w.sessionPool.record q :=
    (Function.update_of_ne apart ..).trans (by rw [filled, Function.update_of_ne apart])
  have field₂ (f : TcpBlock S → Option Nat) (q : Nat) (apart : q ≠ p) :
      TcpThread.field (TcpThread.write { w with sessionPool := arena } p b₁) f q = w.field f q :=
    congrArg (Option.bind · f) (apart₂ q apart)
  have holds₂ := holds.write b₁ live₁
  have atP₂ : (arena.write p b₁).record p = some b₁ := Function.update_self ..
  -- the old head, if there is one, leads back to the new one
  have finish (w₃ : TcpThread S) 
      (kept : TcpRelinked (TcpThread.write { w with sessionPool := arena } p b₁) w₃)
      (next₃ : ∀ q ∈ order, w₃.field (·.next) q = w.field (·.next) q)
      (prev₃ : ∀ q ∈ order, w₃.field (·.prev) q =
        if w.sessionHead = some q then some p else w.field (·.prev) q)
      (atP : w₃.sessionPool.record p = some b₁) : (TcpThread.setHead (some p)).Meets w₃ Q := by
    have records (q : Nat) (apart : q ≠ p) : (w₃.sessionPool.record q).map TcpBlock.unlinked =
        (w.sessionPool.record q).map TcpBlock.unlinked :=
      (kept.records q).trans (congrArg _ (apart₂ q apart))
    refine Program.meets_of_run rfl (next _ ⟨⟨records, fun q k _ => congrFun kept.started (q, k)⟩,
      kept.started, kept.fds, kept.relayInPool,
      ⟨List.nodup_cons.mpr ⟨outside, listed.nodup⟩, fun q => ?_, ?_, kept.holds _ _ _ holds₂⟩, made ▸ atP⟩)
    · rw [List.mem_cons]
      by_cases own : q = p
      · rw [own, atP]
        simp only [Option.isSome_some, true_or]
      · have same := congrArg Option.isSome (records q own)
        rw [Option.isSome_map, Option.isSome_map] at same
        rw [same, listed.live q]
        simp only [own, false_or]
    · refine listed.linked.push listed.nodup next₃ ?_ ?_ prev₃
      · exact (TcpThread.field_live atP _).trans (by rw [← made])
      · exact (TcpThread.field_live atP _).trans (by rw [← made])
  simp only
  split
  · rename_i n head
    have member : n ∈ order := List.mem_of_mem_head? (listed.linked.here_eq.symm.trans head)
    obtain ⟨c, live⟩ := Option.isSome_iff_exists.mp ((listed.live n).mpr member)
    have live₂ : (arena.write p b₁).record n = some c := (apart₂ n (distinct n member)).trans live
    obtain ⟨run, relinked, sameNext, prev₃⟩ :=
      TcpThread.linkPrev_run (w := TcpThread.write { w with sessionPool := arena } p b₁) live₂ (some p)
    refine Program.meets_bind.mpr (Program.meets_of_run run (finish _ relinked (fun q inside => ?_)
      (fun q inside => ?_) ?_))
    · rw [sameNext]
      exact field₂ _ q (distinct q inside)
    · rw [prev₃, Function.update_apply, field₂ _ q (distinct q inside), head]
      simp only [Option.some.injEq, eq_comm]
    · exact (Function.update_of_ne (distinct n member).symm ..).trans atP₂
  · rename_i head
    refine finish _ (.refl _) (fun q member => field₂ _ q (distinct q member)) (fun q member => ?_) atP₂
    rw [head, if_neg (by rintro ⟨⟩)]
    exact field₂ _ q (distinct q member)

/-- The new session takes the descriptor of its client over. -/
theorem TcpLinked.fds_kept {s : TcpSession S (TcpHandshake S)} (linked : TcpLinked cfg p fd s b order w w')
    (fds : TcpFds w (some fd)) (free : w.sessionPool.record p = none) (server : b.serverFd = none) :
    TcpFds w' none := by
  have idle : w.fdOf (some fd) (some (p, .client)) = none := TcpThread.field_gone free _
  have owned := fds.owned.transfer (o := none) rfl idle
  refine ⟨by rw [linked.fds]; exact fds.log, ?_, fun q c live => ?_⟩
  · have held : w'.fdOf none =
        Function.update (Function.update (w.fdOf (some fd)) none none) (some (p, .client)) (some fd) := by
      funext o
      rcases o with none | ⟨q, side⟩
      · rfl
      · by_cases own : q = p
        · subst own
          rw [TcpThread.fdOf_live linked.block]
          cases side with
          | client => rw [Function.update_self]; rfl
          | server =>
            rw [Function.update_of_ne (by simp), Function.update_of_ne (by simp)]
            exact server.trans (TcpThread.field_gone free _).symm
        · rw [linked.elsewhere.fdOf own none (some fd), Function.update_of_ne (by simp [own]),
            Function.update_of_ne (by simp)]
    rw [linked.fds, held]
    exact owned
  · by_cases own : q = p
    · subst own
      cases linked.block.symm.trans live
      rfl
    · obtain ⟨d, wasLive, same⟩ := linked.elsewhere.was_live own live
      have kept : d.clientFd = c.clientFd := congrArg (·.clientFd) same
      exact kept ▸ fds.client q d wasLive

theorem TcpLinked.settled {s : TcpSession S (TcpHandshake S)} (linked : TcpLinked cfg p fd s b order w w')
    (settled : TcpSettled cfg (some fd) order w) (free : w.sessionPool.record p = none)
    (idle : b.relayInAllocated = false) (server : b.serverFd = none) :
    TcpSettled cfg none (p :: order) w' ∧ ∃ b' s, w'.sessionPool.record p = some b' ∧
      TcpWaiting b' (fun k => w'.started (p, k)) s := by
  obtain ⟨⟨listed, buffers, fds, watched⟩, phases⟩ := settled
  have quiet (k : TcpWatcher) : w'.started (p, k) = false := by
    rw [linked.started]
    refine eq_false_of_ne_true fun on => ?_
    obtain ⟨c, live, _⟩ := watched p k on
    rw [free] at live
    cases live
  have waiting : TcpWaiting { b with
      half := .handshake s, clientFd := some fd, prev := none, next := w.sessionHead }
      (fun k => w'.started (p, k)) s :=
    ⟨rfl, idle, server, fun on => absurd on (Bool.eq_false_iff.mp (quiet .client)), quiet .server,
      fun on => absurd on (Bool.eq_false_iff.mp (quiet .timer))⟩
  refine ⟨⟨⟨linked.listed, ?_, linked.fds_kept fds free server, fun q k on => ?_⟩, fun q c live => ?_⟩,
    _, s, linked.block, waiting⟩
  · have relayIn : w'.field TcpBlock.relayIn = w.field TcpBlock.relayIn := by
      have none_ : w'.field TcpBlock.relayIn p = w.field TcpBlock.relayIn p := by
        rw [TcpThread.field_live linked.block, TcpThread.field_gone free]
        exact if_neg (by rw [idle]; exact Bool.false_ne_true)
      rw [linked.elsewhere.field fun _ => rfl, none_, Function.update_eq_self]
    unfold TcpBuffers
    rw [relayIn, linked.relayInPool]
    exact buffers
  · have apart : q ≠ p := by
      rintro rfl
      rw [quiet] at on
      cases on
    rw [linked.started] at on
    obtain ⟨c, wasLive, server⟩ := watched q k on
    obtain ⟨d, live, same⟩ := linked.elsewhere.live apart wasLive
    have kept : d.serverFd = c.serverFd := congrArg (·.serverFd) same
    exact ⟨d, live, kept ▸ server⟩
  · by_cases own : q = p
    · subst own
      cases linked.block.symm.trans live
      exact waiting.phase
    · obtain ⟨d, wasLive, same⟩ := linked.elsewhere.was_live own live
      rw [linked.started]
      exact (phases q d wasLive).relinked same.symm

/-- What `tcp_session_create` leaves: the descriptor with its caller, or a new
session that has it. -/
def TcpCreated (cfg : TcpConfig) (fd : Nat) (order : List Nat) : Option Nat → TcpThread S → Prop
  | none, w => TcpSettled cfg (some fd) order w
  | some p, w => TcpSettled cfg none (p :: order) w ∧ ∃ b s, w.sessionPool.record p = some b ∧
      TcpWaiting b (fun k => w.started (p, k)) s

theorem TcpSettled.create (settled : TcpSettled cfg (some fd) order w) (a : TcpCreateAnswer S)
    (target : S.Addr) : (TcpThread.tcpSessionCreate cfg a fd target).Meets w (TcpCreated cfg fd order) := by
  refine Program.meets_bind.mpr (Program.meets_of_run rfl ?_)
  generalize run : w.sessionPool.alloc a.memalign cfg.sessionSize
    ⟨.handshake (tcpSessionZero target a.ssClient), none, none, false, 0, none, none⟩ = result
  obtain ⟨arena, call⟩ := result
  cases got : call.result with
  | none =>
    obtain ⟨after, same, _⟩ := settled.inv.listed.sessions.alloc_none run got
    exact settled.samePool same after
  | some p =>
    obtain ⟨after, free, filled⟩ := settled.inv.listed.sessions.alloc_some run got
    simp only
    split
    · exact Program.meets_unanswered
    · have live : arena.record p =
          some ⟨.handshake (tcpSessionZero target a.ssClient), none, none, false, 0, none, none⟩ := by
        rw [filled, Function.update_self]
      have freed : (arena.free p cfg.sessionSize).record = w.sessionPool.record := by
        have back := Function.update_eq_self p w.sessionPool.record
        rw [free] at back
        rw [PoolArena.free, filled, Function.update_idem, back]
      have back : TcpThread.freeSession cfg p { w with sessionPool := arena } =
          .ok ((), { w with sessionPool := arena.free p cfg.sessionSize }) := by
        simp only [TcpThread.freeSession, live]
      exact Program.meets_bind.mpr (Program.meets_of_run back (settled.samePool freed (after.free live)))
    · rename_i s taken
      exact Program.meets_bind.mpr (settled.inv.listed.link_meets free filled after
        fun w' linked => linked.settled settled free rfl rfl)

end Create

section Accept

theorem TcpSettled.opened (settled : TcpSettled cfg none order w) (fresh : fd ∉ fdsInUse w.fds) :
    TcpSettled cfg (some fd) order { w with fds := .opened fd :: w.fds } :=
  ⟨settled.inv.opened fresh, settled.phases⟩

/-- The loop of `tcp_proxy_on_accept`; the induction is on the answers, and
each pass starts with the worker in order. -/
theorem tcpProxyAcceptLoop_meets (answers : List (TcpAcceptAnswer S)) (left : Nat)
    (settled : TcpSettled cfg none order w) :
    (TcpThread.tcpProxyAcceptLoop cfg answers left).Meets w
      fun _ w' => ∃ order', TcpSettled cfg none order' w' := by
  induction answers generalizing left order w with
  | nil =>
    cases left with
    | zero => exact ⟨order, settled⟩
    | succ left => exact Program.meets_unanswered
  | cons a answers ih =>
    cases left with
    | zero => exact ⟨order, settled⟩
    | succ left =>
      have rejects {fd : Nat} {w : TcpThread S} (settled : TcpSettled cfg (some fd) order w) :
          (do TcpThread.closeFd fd true; TcpThread.tcpProxyAcceptLoop cfg answers left :
            Program (TcpThread S) Unit).Meets w fun _ w' => ∃ order', TcpSettled cfg none order' w' :=
        Program.meets_bind.mpr (TcpThread.closeFd_meets (settled.inv.fds.owned.mem (o := none) rfl) true
          (ih left ⟨settled.inv.closed true, settled.phases⟩))
      refine Program.meets_bind.mpr (TcpThread.openFd_meets a.socket ?_ fun fd fresh => ?_)
      · simp only
        split
        · exact ih (left + 1) settled
        · exact ⟨order, settled⟩
      · have opened := settled.opened fresh
        simp only
        split
        · exact rejects opened
        · rename_i target _
          refine (opened.create a.create target).bind fun created w' ends => ?_
          cases created with
          | none => exact rejects ends
          | some p =>
            obtain ⟨settled, b, s, live, waiting⟩ := ends
            refine (TcpThread.tcpHandshakeWaitInitialPayload_meets a.recvs a.start (settled.here live)
              waiting).bind fun _ w' handled => ?_
            obtain ⟨order', settled⟩ := handled.settled settled
            exact ih left settled

end Accept

end Tproxy
