import Tproxy.Udp.NatTable

namespace Tproxy

/-- The pools of a UDP worker are large enough: every table is within its
maximum, and no allocation that the system could serve was refused. -/
structure UdpPoolsSuffice (cfg : UdpConfig) (w : UdpWorld) : Prop where
  fullcone : (w.nodes .fullcone).table.length ≤ cfg.maxsize .fullcone
  symmetric : (w.nodes .symmetric).table.length ≤ cfg.maxsize .symmetric
  tproxy : w.tproxy.table.length ≤ cfg.tproxyMaxsize
  served : ∀ pool call, .alloc pool call ∈ w.trace → call.MemoryAvailable → call.result ≠ none

/-- The limits of `run_event_loop` suffice in every run. -/
theorem udpPools_suffice {cfg : UdpConfig} {w : UdpWorld} (reach : UdpReach cfg w) :
    UdpPoolsSuffice cfg w where
  fullcone := reach.inv.sizes .fullcone
  symmetric := reach.inv.sizes .symmetric
  tproxy := reach.inv.tproxy.size
  served := reach.inv.served

/-- Three clients and a full batch of replies from as many sources as the
batch has packets, through tables of one and four entries. -/
theorem udpPools_suffice_full_batch : ∃ w, UdpReach udpTinyConfig w ∧ w.tproxy.table.length = 4 ∧
    (w.trace.filter fun effect => match effect with | .alloc .tproxy _ => true | _ => false).length = 16 ∧
    UdpPoolsSuffice udpTinyConfig w :=
  ⟨_, udpTinyStart_reach
    [.recvmsg [udpTinyPacket 1 none, udpTinyPacket 2 none] 5,
      .serverReply udpTinySession ((List.range 16).map fun source =>
        ⟨some (.ipv4 source [10, 0, 0, 9], [1]), udpTinySocket, true,
          fun _ => ⟨none, fun _ refused => by cases refused⟩⟩) 6],
    by decide +kernel, by decide +kernel, udpPools_suffice (udpTinyStart_reach _)⟩

end Tproxy
