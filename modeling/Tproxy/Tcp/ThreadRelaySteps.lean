import Tproxy.Tcp.ThreadPhases

namespace Tproxy.TcpThread

variable {S : Ss2022} {cfg : TcpConfig} {w w₀ w' : TcpThread S} {order : List Nat} {p : Nat}
  {b : TcpBlock S} {on : TcpWatcher → Bool} {s t : TcpSession S TcpRelay} {α : Type}

/-- How a function of the relay ends: the relay goes on, or the session is gone. -/
def RelayPart (cfg : TcpConfig) (w₀ : TcpThread S) (order : List Nat) (p : Nat) (on : TcpWatcher → Bool)
    (goesOn : Bool) (w : TcpThread S) : Prop :=
  if goesOn then ∃ b s, TcpAt cfg w₀ none order p b on w ∧ TcpRelaying b on s
  else TcpGone cfg w₀ none order p w

theorem RelayPart.alive (here : TcpAt cfg w₀ none order p b on w) (relaying : TcpRelaying b on s) :
    RelayPart cfg w₀ order p on true w := ⟨b, s, here, relaying⟩

/-- One part of a handler of the relay after the other. -/
theorem RelayPart.andThen {part : Program (TcpThread S) Bool} {rest : Bool → Program (TcpThread S) α}
    {Q : α → TcpThread S → Prop} (first : part.Meets w (RelayPart cfg w₀ order p on))
    (goesOn : ∀ w' b s, TcpAt cfg w₀ none order p b on w' → TcpRelaying b on s → (rest true).Meets w' Q)
    (stops : ∀ w', TcpGone cfg w₀ none order p w' → (rest false).Meets w' Q) :
    (part >>= rest).Meets w Q := by
  refine first.bind fun goes w' ends => ?_
  cases goes with
  | false => exact stops w' ends
  | true =>
    obtain ⟨b, s, here, relaying⟩ := ends
    exact goesOn w' b s here relaying

theorem setRelay_meets {Q : Unit → TcpThread S → Prop} (here : TcpAt cfg w₀ none order p b on w)
    (relaying : TcpRelaying b on s)
    (watchers : t.clientWatcher = s.clientWatcher ∧ t.serverWatcher = s.serverWatcher)
    (next : ∀ w' b', TcpAt cfg w₀ none order p b' on w' → TcpRelaying b' on t → Q () w') :
    (setRelay p t).Meets w Q := by
  refine setHalf_meets here (.relay t) fun w' here' =>
    next w' _ here' { relaying with half := rfl, client := ?_, server := ?_ }
  · rw [watchers.1, relaying.client]
  · rw [watchers.2, relaying.server]

theorem tcpRelayPart_meets {part : TcpSession S TcpRelay → Except (TcpState S) (TcpSession S TcpRelay)}
    (keeps : ∀ t, part s = .ok t → t.clientWatcher = s.clientWatcher ∧ t.serverWatcher = s.serverWatcher)
    (here : TcpAt cfg w₀ none order p b on w) (relaying : TcpRelaying b on s) :
    (tcpRelayPart cfg part p).Meets w (RelayPart cfg w₀ order p on) := by
  refine Program.meets_bind.mpr (relay_meets here.live relaying.half ?_)
  cases done : part s with
  | error st => exact Program.meets_bind.mpr (tcpSessionClose_meets here true fun w' gone => gone)
  | ok t =>
    exact Program.meets_bind.mpr (setRelay_meets here relaying (keeps t done) fun w' b' here' relaying' =>
      RelayPart.alive here' relaying')

theorem tcpRelayProcessServerData_meets (here : TcpAt cfg w₀ none order p b on w)
    (relaying : TcpRelaying b on s) :
    (tcpRelayProcessServerData cfg p).Meets w (RelayPart cfg w₀ order p on) := by
  refine tcpRelayPart_meets (fun t done => ?_) here relaying
  have frame : FramesUp s (Tproxy.tcpRelayProcessServerData s) := tcpRelayProcessServerData_frame
  rw [done] at frame
  obtain ⟨client, rest⟩ := Prod.mk.inj frame.watchers
  exact ⟨client, (Prod.mk.inj rest).1⟩

theorem tcpRelayReadFromClient_meets (recvs : List (Except Errno (List UInt8)))
    (here : TcpAt cfg w₀ none order p b on w) (relaying : TcpRelaying b on s) :
    (tcpRelayReadFromClient cfg recvs p).Meets w (RelayPart cfg w₀ order p on) := by
  refine tcpRelayPart_meets (fun t done => ?_) here relaying
  unfold Tproxy.tcpRelayReadFromClient at done
  split at done
  · cases done
    exact ⟨rfl, rfl⟩
  · cases done
  · cases done
    exact ⟨rfl, rfl⟩
  · simp only at done
    split at done
    · cases done
    · cases done
      exact ⟨rfl, rfl⟩

theorem tcpRelayHandleServerEof_meets (here : TcpAt cfg w₀ none order p b on w)
    (relaying : TcpRelaying b on s) :
    (tcpRelayHandleServerEof cfg p).Meets w (RelayPart cfg w₀ order p on) := by
  refine tcpRelayPart_meets (fun t done => ?_) here relaying
  unfold Tproxy.tcpRelayHandleServerEof at done
  split at done
  · cases done
  · cases done
    exact ⟨rfl, rfl⟩

theorem tcpRelayWriteToServer_meets (sends : List (Except Errno Nat))
    (here : TcpAt cfg w₀ none order p b on w) (relaying : TcpRelaying b on s) :
    (tcpRelayWriteToServer cfg sends p).Meets w (RelayPart cfg w₀ order p on) := by
  refine tcpRelayPart_meets (fun t done => ?_) here relaying
  simp only [Tproxy.tcpRelayWriteToServer] at done
  split at done
  · cases done
  · cases done
    exact ⟨rfl, rfl⟩

theorem tcpRelayDrainClient_meets (sends : List (Except Errno Nat))
    (here : TcpAt cfg w₀ none order p b on w) (relaying : TcpRelaying b on s) :
    (tcpRelayDrainClient cfg sends p).Meets w (RelayPart cfg w₀ order p on) := by
  refine tcpRelayPart_meets (fun t done => ?_) here relaying
  simp only at done
  split at done
  · cases done
  · cases done
    exact ⟨rfl, rfl⟩

theorem tcpRelayWriteToClient_meets (sends : List (Except Errno Nat))
    (here : TcpAt cfg w₀ none order p b on w) (relaying : TcpRelaying b on s) :
    (tcpRelayWriteToClient cfg sends p).Meets w (RelayPart cfg w₀ order p on) := by
  refine RelayPart.andThen (tcpRelayDrainClient_meets sends here relaying) (fun w' b t here relaying => ?_)
    fun w' gone => gone
  refine Program.meets_bind.mpr (relay_meets here.live relaying.half ?_)
  simp only
  split
  · exact Program.meets_bind.mpr (setRelay_meets here relaying ⟨rfl, rfl⟩ fun w' b' here relaying =>
      RelayPart.alive here relaying)
  · exact RelayPart.alive here relaying

theorem tcpRelayProcessPendingServerData_meets (here : TcpAt cfg w₀ none order p b on w)
    (relaying : TcpRelaying b on s) :
    (tcpRelayProcessPendingServerData cfg p).Meets w (RelayPart cfg w₀ order p on) := by
  refine Program.meets_bind.mpr (relay_meets here.live relaying.half ?_)
  simp only
  split
  · exact RelayPart.alive here relaying
  · exact tcpRelayProcessServerData_meets here relaying

theorem tcpRelayReadFromServer_meets (recvs : List (Except Errno (List UInt8)))
    (here : TcpAt cfg w₀ none order p b on w) (relaying : TcpRelaying b on s) :
    (tcpRelayReadFromServer cfg recvs p).Meets w (RelayPart cfg w₀ order p on) := by
  refine Program.meets_bind.mpr (relay_meets here.live relaying.half ?_)
  refine Program.meets_bind.mpr (setRelay_meets here relaying ⟨rfl, rfl⟩ fun w' b' here relaying => ?_)
  split
  · exact RelayPart.alive here relaying
  · exact Program.meets_bind.mpr (tcpSessionClose_meets here true fun w' gone => gone)
  · exact tcpRelayHandleServerEof_meets here relaying
  · exact Program.meets_bind.mpr (setRelay_meets here relaying ⟨rfl, rfl⟩ fun w' b' here relaying =>
      tcpRelayProcessServerData_meets here relaying)

theorem tcpRelayHandleWrite_meets (e : RelayEvent) (here : TcpAt cfg w₀ none order p b on w)
    (relaying : TcpRelaying b on s) : (tcpRelayHandleWrite cfg e p).Meets w (RelayPart cfg w₀ order p on) := by
  unfold tcpRelayHandleWrite
  split
  · exact RelayPart.alive here relaying
  · split
    · exact tcpRelayWriteToClient_meets e.sends here relaying
    · exact tcpRelayWriteToServer_meets e.sends here relaying

theorem tcpRelayHandleRead_meets (e : RelayEvent) (here : TcpAt cfg w₀ none order p b on w)
    (relaying : TcpRelaying b on s) : (tcpRelayHandleRead cfg e p).Meets w (RelayPart cfg w₀ order p on) := by
  unfold tcpRelayHandleRead
  split
  · exact RelayPart.alive here relaying
  · split
    · refine Program.meets_bind.mpr (relay_meets here.live relaying.half ?_)
      split
      · exact RelayPart.alive here relaying
      · exact tcpRelayReadFromClient_meets e.recvs here relaying
    · refine Program.meets_bind.mpr (relay_meets here.live relaying.half ?_)
      split
      · exact RelayPart.alive here relaying
      · exact tcpRelayReadFromServer_meets e.recvs here relaying

section Watchers

theorem tcpRelayShutdown_watchers (s : TcpSession S TcpRelay) :
    (tcpRelayShutdownClient (tcpRelayShutdownServer s)).clientWatcher = s.clientWatcher ∧
      (tcpRelayShutdownClient (tcpRelayShutdownServer s)).serverWatcher = s.serverWatcher := by
  have server : (tcpRelayShutdownServer s).clientWatcher = s.clientWatcher ∧
      (tcpRelayShutdownServer s).serverWatcher = s.serverWatcher := by
    unfold tcpRelayShutdownServer
    split <;> exact ⟨rfl, rfl⟩
  rw [← server.1, ← server.2]
  unfold tcpRelayShutdownClient
  split <;> exact ⟨rfl, rfl⟩

/-- The watchers of a relay are set, or the session is closed behind it. -/
theorem tcpRelayUpdateWatchers_meets (here : TcpAt cfg w₀ none order p b on w)
    (relaying : TcpRelaying b on s) :
    (tcpRelayUpdateWatchers cfg p).Meets w fun _ => TcpHandled cfg w₀ order p := by
  refine Program.meets_bind.mpr (relay_meets here.live relaying.half ?_)
  refine Program.meets_bind.mpr (setRelay_meets here relaying (tcpRelayShutdown_watchers s)
    fun w' b' here relaying => ?_)
  split
  · exact tcpSessionClose_meets here false fun w' gone => Or.inr gone
  · refine Program.meets_bind.mpr (setHalf_meets here _ fun w' here => ?_)
    refine Program.meets_bind.mpr (evSet_meets here .client _ (by rintro _ ⟨⟩) fun w' here => ?_)
    refine evSet_meets here .server _ (fun _ _ => relaying.fd) fun w' here => Or.inl ⟨_, _, here, ?_⟩
    exact TcpRelaying.phase ⟨rfl, relaying.fd, relaying.client, relaying.server, relaying.timer⟩

end Watchers

/-- A callback of the relay. -/
theorem tcpRelayOnEvent_meets (e : RelayEvent) (here : TcpAt cfg w₀ none order p b on w)
    (relaying : TcpRelaying b on s) :
    (tcpRelayOnEvent cfg e p).Meets w fun _ => TcpHandled cfg w₀ order p := by
  refine RelayPart.andThen (tcpRelayHandleWrite_meets e here relaying) (fun w' b s here relaying => ?_)
    fun w' gone => Or.inr gone
  refine RelayPart.andThen (tcpRelayProcessPendingServerData_meets here relaying)
    (fun w' b s here relaying => ?_) fun w' gone => Or.inr gone
  refine RelayPart.andThen (tcpRelayHandleRead_meets e here relaying) (fun w' b s here relaying => ?_)
    fun w' gone => Or.inr gone
  exact tcpRelayUpdateWatchers_meets here relaying

end Tproxy.TcpThread
