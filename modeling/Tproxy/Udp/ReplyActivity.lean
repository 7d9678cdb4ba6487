import Tproxy.Udp.Arrivals

namespace Tproxy

variable {cfg : UdpConfig} {w w' : UdpWorld} {now timeout : EvTstamp}

/-! Replies and tproxy entries. -/

theorem udpTproxyEntryFree_quiet (cfg : UdpConfig) (w : UdpWorld) (n : Nat) :
    UdpQuiet w (udpTproxyEntryFree cfg w n) := by
  unfold udpTproxyEntryFree
  split
  · exact .refl
  · exact .of_effects _ rfl rfl fun b member => by simp at member

theorem udpTproxyEntryClose_quiet (cfg : UdpConfig) (w : UdpWorld) (n : Nat) :
    UdpQuiet w (udpTproxyEntryClose cfg w n) := by
  have removed : UdpQuiet w { w with tproxy := w.tproxy.del n } := ⟨rfl, .refl rfl⟩
  exact removed.trans (udpTproxyEntryFree_quiet cfg _ n)

theorem udpTproxyEntryCreate_quiet (cfg : UdpConfig) (packet : UdpReplyPacket)
    (w : UdpWorld) (deferred : List Nat) (replySrc : UdpEndpointKey) (fd : Nat) (now : EvTstamp) :
    UdpQuiet w (udpTproxyEntryCreate cfg packet w deferred replySrc fd now).1 := by
  unfold udpTproxyEntryCreate
  dsimp only
  split
  · refine .of_effects [.alloc .tproxy _, .closed fd] rfl (List.append_assoc ..) fun b member => ?_
    simp at member
  · exact .of_effects [.alloc .tproxy _] rfl rfl fun b member => by simp at member

theorem udpTproxyEntryGetOrCreate_quiet (cfg : UdpConfig) (packet : UdpReplyPacket)
    (w : UdpWorld) (deferred : List Nat) (replySrc : UdpEndpointKey) (now : EvTstamp) :
    UdpQuiet w (udpTproxyEntryGetOrCreate cfg packet w deferred replySrc now).1 := by
  unfold udpTproxyEntryGetOrCreate
  split
  · split
    · exact .refl
    · exact ⟨rfl, .refl rfl⟩
  · split
    · exact .refl
    · rename_i fd _
      split
      · have opened : UdpQuiet w (w.emit [.opened fd]) := .of_effects _ rfl rfl fun b member => by
          simp at member
        exact opened.trans (udpTproxyEntryCreate_quiet cfg packet _ deferred replySrc fd now)
      · exact .of_effects _ rfl rfl fun b member => by simp at member

theorem udpReplyStep_quiet (cfg : UdpConfig) (s : UdpSession) (now : EvTstamp) (batch : UdpReplyBatch)
    (packet : UdpReplyPacket) :
    UdpQuiet batch.world (udpReplyStep cfg s now batch packet).world := by
  unfold udpReplyStep
  split
  · exact .refl
  · split
    · exact .refl
    · rename_i replySrc _
      have quiet := udpTproxyEntryGetOrCreate_quiet cfg packet batch.world batch.deferred
        replySrc now
      split <;> rename_i run <;> rw [run] at quiet <;> exact quiet

theorem udpReplySteps_quiet (cfg : UdpConfig) (s : UdpSession) (now : EvTstamp)
    (packets : List UdpReplyPacket) (batch : UdpReplyBatch) :
    UdpQuiet batch.world (packets.foldl (udpReplyStep cfg s now) batch).world := by
  induction packets generalizing batch with
  | nil => exact .refl
  | cons packet packets ih => exact (udpReplyStep_quiet cfg s now batch packet).trans (ih _)

theorem udpTproxyFlushClientSends_quiet (w : UdpWorld) (sends : List UdpTproxySend) :
    UdpQuiet w (udpTproxyFlushClientSends w sends) := by
  refine .of_effects _ rfl rfl fun b member => ?_
  obtain ⟨call, _, found⟩ := List.mem_filterMap.mp member
  obtain ⟨entry, _, send⟩ := Option.map_eq_some_iff.mp found
  cases send

theorem udpReplyEnd_quiet (cfg : UdpConfig) (batch : UdpReplyBatch) :
    UdpQuiet batch.world (batch.deferred.foldl (udpTproxyEntryFree cfg)
      (udpTproxyFlushClientSends batch.world batch.sends)) :=
  (udpTproxyFlushClientSends_quiet batch.world batch.sends).trans
    (UdpQuiet.foldl (udpTproxyEntryFree_quiet cfg) batch.deferred _)

/-- A batch of replies touches its session and frees none. -/
theorem UdpInv.reply_activity (inv : UdpInv cfg w .idle) (a : Nat) (packets : List UdpReplyPacket)
    (now : EvTstamp) :
    UdpUsed ((UdpAction.serverReply a packets now).use cfg w) w
        (udpRelayOnServerReply cfg w a packets now) ∧
      UdpFrees (fun _ => False) w (udpRelayOnServerReply cfg w a packets now) := by
  unfold udpRelayOnServerReply
  split
  · rename_i dead
    simp only [UdpAction.use, dead, Option.isSome_none, Bool.false_eq_true, false_and, if_false]
    exact ⟨.refl, .refl rfl⟩
  · rename_i s atA nothing
    have empty : packets = [] := by simpa [udpBatchSize] using nothing
    simp only [UdpAction.use, empty, ne_eq, not_true_eq_false, and_false, if_false]
    exact ⟨.refl, .refl rfl⟩
  · rename_i s atA received
    have nonempty : packets ≠ [] := fun empty => received (by rw [empty]; rfl)
    have use : (UdpAction.serverReply a packets now).use cfg w = some (a, now) := by
      simp only [UdpAction.use, atA, Option.isSome_some, nonempty, ne_eq, not_false_eq_true, and_true,
        if_true]
    have steps := udpReplySteps_quiet cfg s now (packets.take udpBatchSize)
      ⟨udpSessionTouch w a now, [], []⟩
    have rest := steps.trans (udpReplyEnd_quiet cfg _)
    rw [use]
    exact ⟨UdpUsed.trans_none (UdpInv.touch_activity inv a now) rest.used,
      UdpFrees.trans (.refl (udpSessionTouch_trace w a now)) rest.frees⟩

end Tproxy
